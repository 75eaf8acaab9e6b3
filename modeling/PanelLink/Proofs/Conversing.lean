import PanelLink.Console
import PanelLink.Proofs.Accepting
import PanelLink.Proofs.Spelling

/-!
What a conversation on the console leaves behind. Each line has its own effect on the
device and on the terminal, whatever was said before, and the first line that closes the
conversation is the last that has any.
-/

namespace PanelLink

/-! ## The lines of the input -/

namespace Text

/-- Each line ends in the mark, but for the last one, which is then not empty. -/
inductive IsSplit {α : Type} (mark : α) : List α → List (List α) → Prop where
  | nil : IsSplit mark [] []
  | last {line : List α} (unmarked : mark ∉ line) (filled : line ≠ []) :
      IsSplit mark line [line]
  | cons {line rest : List α} {lines : List (List α)} (unmarked : mark ∉ line) :
      IsSplit mark rest lines → IsSplit mark (line ++ mark :: rest) (line :: lines)

theorem IsSplit.cons_of_ne {α : Type} {mark item : α} (different : item ≠ mark)
    {rest line : List α} {lines : List (List α)}
    (split : IsSplit mark rest (line :: lines)) :
    IsSplit mark (item :: rest) ((item :: line) :: lines) := by
  have extend : mark ∉ line → mark ∉ item :: line := fun unmarked =>
    List.not_mem_cons_of_ne_of_not_mem different.symm unmarked
  cases split with
  | last unmarked => exact .last (extend unmarked) (List.cons_ne_nil _ _)
  | cons unmarked others => exact .cons (extend unmarked) others

theorem splitLines_isSplit {α : Type} [DecidableEq α] (mark : α) (items : List α) :
    IsSplit mark items (splitLines mark items) := by
  fun_induction splitLines mark items with
  | case1 => exact .nil
  | case2 rest induction => exact .cons List.not_mem_nil induction
  | case3 item rest different single induction =>
      -- Nothing is left behind the item, which is a last line without its mark.
      rw [single] at induction
      cases induction
      exact .last
        (List.not_mem_cons_of_ne_of_not_mem (Ne.symm different) List.not_mem_nil)
        (List.cons_ne_nil _ _)
  | case4 item rest different line others split induction =>
      rw [split] at induction
      exact induction.cons_of_ne different

example : lines [0x61, 0x0A, 0x0A, 0x62] = [[0x61], [], [0x62]] := rfl

end Text

/-! ## What a line asks for -/

namespace Console

def wordOf? (line : Bytes) : Option (List Char) :=
  (Text.ofBytes? line).map fun text => Text.trim text.toList

def isQuit (word : List Char) : Bool := word = ['q'] || word = ['Q']

def closes (line : Bytes) : Bool := (wordOf? line).all isQuit

def framesFor (line : Bytes) : List Bytes :=
  match (wordOf? line).bind (Text.unsigned? 256) with
  | some number => if number ≤ 31 then [Frame.encode [0x40 + UInt8.ofNat number]] else []
  | none => []

def remarkOn (line : Bytes) : String :=
  match wordOf? line with
  | none => ""
  | some word =>
      if word = [] ∨ isQuit word then ""
      else match Text.unsigned? 256 word with
        | none => "not a button: " ++ String.ofList word ++ "\n"
        | some number =>
            if number ≤ 31 then ""
            else "button " ++ Nat.repr number ++ " out of range (0-31)" ++ "\n"

def heeded (lines : List Bytes) : List Bytes :=
  lines.takeWhile (fun line => !closes line) ++ (lines.find? closes).toList

/-- What follows each prompt. Unless a line closes the conversation, the last prompt meets
the end of the input. -/
def remarks (lines : List Bytes) : List String :=
  (heeded lines).map remarkOn ++ if lines.any closes then [] else [""]

def isBrokenOff (lines : List Bytes) : Bool :=
  (heeded lines).any fun line => (wordOf? line).isNone

def outcomeOf (line : Bytes) : Except Complaint Continuation :=
  match wordOf? line with
  | none => .error (.ofFailure "read failed" notText)
  | some word => .ok (if isQuit word then .quit else .goOn)

theorem isQuit_iff (word : List Char) :
    isQuit word = true ↔ word.map Char.toLower = ['q'] := by
  have eitherCase (character : Char) :
      character.toLower = 'q' ↔ character = 'q' ∨ character = 'Q' :=
    Text.toLower_eq_iff rfl character
  rw [List.map_eq_singleton_iff]
  simp only [isQuit, eitherCase, Bool.or_eq_true, decide_eq_true_eq]
  constructor
  · rintro (rfl | rfl) <;> simp
  · rintro ⟨character, rfl, rfl | rfl⟩ <;> simp

theorem unsigned?_of_isQuit {word : List Char} (quit : isQuit word = true) :
    Text.unsigned? 256 word = none := by
  rcases Bool.or_eq_true_iff.mp quit with lower | upper
  · rw [of_decide_eq_true lower]
    rfl
  · rw [of_decide_eq_true upper]
    rfl

theorem stays_of_unsigned? {word : List Char} {number : Nat}
    (named : Text.unsigned? 256 word = some number) : isQuit word = false := by
  apply Bool.eq_false_iff.mpr
  intro quits
  cases named.symm.trans (unsigned?_of_isQuit quits)

theorem filled_of_unsigned? {word : List Char} {number : Nat}
    (named : Text.unsigned? 256 word = some number) : word ≠ [] := by
  rintro rfl
  cases named

inductive Means : List Char → Entry → Prop where
  | blank : Means [] .blank
  | quit {word : List Char} (quits : isQuit word = true) : Means word .quit
  | button {word : List Char} {number : Nat}
      (named : Text.unsigned? 256 word = some number) :
      Means word (.button (UInt8.ofNat number))
  | other {word : List Char} (filled : word ≠ []) (stays : isQuit word = false)
      (unnamed : Text.unsigned? 256 word = none) :
      Means word (.other (String.ofList word))

theorem entryOf_means (text : String) : Means (Text.trim text.toList) (entryOf text) := by
  rw [entryOf]
  generalize Text.trim text.toList = word
  simp only [List.isEmpty_iff, ← isQuit_iff]
  split
  · rename_i blank
    rw [blank]
    exact .blank
  · rename_i filled
    split
    · exact .quit ‹_›
    · rename_i stays
      split
      · exact .button ‹_›
      · exact .other filled (Bool.eq_false_iff.mpr stays) ‹_›

/-! ## What a console leaves behind -/

/-- Nothing fails on the terminal and on the device, and the limit leaves room for any
toggle. The prompt is flushed by a single call, so an interrupted one would be a failure
here. -/
structure Obliging (console : Console) : Prop where
  terminal : console.terminal.Accepting
  shows : ∀ reply ∈ console.terminal.flushes, reply = .done
  device : console.link.outlet.sink.Accepting
  roomy : 4 ≤ console.link.outlet.limit

structure Leaves (before after : Console) (frames : List Bytes) (shown : String) :
    Prop where
  obliging : after.Obliging
  written : after.link.written = before.link.written ++ frames.flatten
  accepted : after.terminal.accepted = before.terminal.accepted ++ Text.bytes shown
  sent : after.sent = before.sent + frames.length

theorem bytes_append (first second : String) :
    Text.bytes (first ++ second) = Text.bytes first ++ Text.bytes second := by
  simp [Text.bytes]

namespace Leaves

theorem refl {console : Console} (obliging : console.Obliging) :
    Leaves console console [] "" :=
  ⟨obliging, (List.append_nil _).symm, (List.append_nil _).symm, rfl⟩

theorem trans {first second third : Console} {frames others : List Bytes}
    {shown more : String} (left : Leaves first second frames shown)
    (right : Leaves second third others more) :
    Leaves first third (frames ++ others) (shown ++ more) where
  obliging := right.obliging
  written := by rw [right.written, left.written, List.flatten_append, List.append_assoc]
  accepted := by rw [right.accepted, left.accepted, bytes_append, List.append_assoc]
  sent := by rw [right.sent, left.sent, List.length_append, Nat.add_assoc]

end Leaves

theorem toByte_toggle {number : Nat} (present : number ≤ 31) :
    (Command.act .toggle (UInt8.ofNat number)).toByte = 0x40 + UInt8.ofNat number := by
  have all : ∀ button : Fin 32,
      (Command.act .toggle (UInt8.ofNat button)).toByte = 0x40 + UInt8.ofNat button := by
    decide
  exact all ⟨number, Nat.lt_succ_of_le present⟩

/-- One byte of the frame is escaped at most, since the two of the checksum never both
are. -/
theorem length_toggle {number : Nat} (present : number ≤ 31) :
    (Frame.encode [0x40 + UInt8.ofNat number]).length ≤ 6 := by
  have all :
      ∀ button : Fin 32, (Frame.encode [0x40 + UInt8.ofNat button]).length ≤ 6 := by
    decide +kernel
  exact all ⟨number, Nat.lt_succ_of_le present⟩

section Calls

variable {console : Console} (obliging : console.Obliging)

include obliging

theorem write_leaves (piece : String) :
    ∃ terminal, console.terminal.writeAll (Text.bytes piece) = (.ok (), terminal) ∧
      Leaves console { console with terminal } [] piece := by
  rcases obliging.terminal.writeAll (Text.bytes piece) with ⟨terminal, wrote, accepting⟩
  have sameFlushes : terminal.flushes = console.terminal.flushes := by
    rw [← congrArg (fun outcome => outcome.2.flushes) wrote]
    rfl
  refine ⟨terminal, wrote, ⟨accepting, ?_, obliging.device, obliging.roomy⟩,
    (List.append_nil _).symm, Sink.accepted_of_writeAll_ok wrote, rfl⟩
  rw [sameFlushes]
  exact obliging.shows

theorem say_leaves (context : String) (pieces : List String) :
    ∃ later, console.say context pieces = (.ok (), later) ∧
      Leaves console later [] (String.join pieces) := by
  induction pieces generalizing console with
  | nil => exact ⟨console, rfl, .refl obliging⟩
  | cons piece rest induction =>
      rcases write_leaves obliging piece with ⟨terminal, wrote, first⟩
      rcases induction first.obliging with ⟨later, said, others⟩
      refine ⟨later, ?_, ?_⟩
      · rw [say, wrote]
        exact said
      · rw [String.join_cons]
        exact first.trans others

theorem remark_leaves (pieces : List String) :
    ∃ later, console.remark pieces = (.ok (), later) ∧
      Leaves console later [] (String.join pieces ++ "\n") := by
  have shown := say_leaves obliging "write failed" (pieces ++ ["\n"])
  rwa [String.join_append, String.join_cons, String.join_nil,
    String.append_empty] at shown

theorem flush_leaves :
    ∃ terminal, console.terminal.flush = (.ok (), terminal) ∧
      Leaves console { console with terminal } [] "" := by
  have leaves : ∀ rest, (∀ reply ∈ rest, reply = .done) →
      Leaves console
        { console with
          terminal := { console.terminal with flushes := rest }.record [.flushed] }
        [] "" := by
    intro rest shows
    refine ⟨⟨⟨obliging.terminal.writes, ?_⟩, shows, obliging.device, obliging.roomy⟩,
      (List.append_nil _).symm, Sink.accepted_record _ _, rfl⟩
    intro reply member
    rw [shows reply member]
    rfl
  have shows := obliging.shows
  rw [Sink.flush]
  split
  · exact ⟨_, rfl, leaves console.terminal.flushes shows⟩
  · rename_i rest next
    rw [next] at shows
    exact ⟨_, rfl,
      leaves rest fun reply member => shows reply (List.mem_cons_of_mem _ member)⟩
  · rename_i cause rest next
    rw [next] at shows
    cases shows _ List.mem_cons_self

theorem ask_leaves :
    ∃ later, console.ask = (.ok (), later) ∧ Leaves console later [] prompt := by
  rcases say_leaves obliging "prompt failed" [prompt] with ⟨prompted, said, shown⟩
  rw [String.join_cons, String.join_nil, String.append_empty] at shown
  rcases flush_leaves shown.obliging with ⟨terminal, flushed, nothing⟩
  refine ⟨{ prompted with terminal }, ?_, shown.trans nothing⟩
  rw [ask, said]
  simp only [flushed]
  rfl

theorem press_leaves {number : Nat} (small : number < 256) :
    ∃ later, console.press (UInt8.ofNat number) = (.ok (), later) ∧
      Leaves console later
        (if number ≤ 31 then [Frame.encode [0x40 + UInt8.ofNat number]] else [])
        (if number ≤ 31 then ""
          else "button " ++ Nat.repr number ++ " out of range (0-31)" ++ "\n") := by
  have inRange_iff : UInt8.ofNat number ≤ 31 ↔ number ≤ 31 := by
    rw [UInt8.le_iff_toNat_le, UInt8.toNat_ofNat_of_lt' small]
    rfl
  rcases Command.checked_cases .toggle (UInt8.ofNat number) with
    ⟨inRange, checked⟩ | ⟨beyond, checked⟩
  · have present := inRange_iff.mp inRange
    have fits : Frame.fits console.link.outlet.limit
        (Frame.encode [0x40 + UInt8.ofNat number]).length = true := by
      have short := length_toggle present
      have roomy := obliging.roomy
      apply decide_eq_true
      omega
    rw [← toByte_toggle present] at fits
    rcases Link.send_singleton obliging.device fits with ⟨sink, sent, accepted, accepting⟩
    rw [toByte_toggle present] at accepted
    rw [if_pos present, if_pos present]
    refine ⟨{ console with
        link := { console.link with outlet := { console.link.outlet with sink } }
        sent := console.sent + 1 }, ?_,
      ⟨obliging.terminal, obliging.shows, accepting, obliging.roomy⟩, ?_,
      (List.append_nil _).symm, rfl⟩
    · simp only [press, Link.toggle, checked, sent]
      rfl
    · rw [List.flatten_singleton]
      exact accepted
  · have absent : ¬number ≤ 31 := fun present =>
      UInt8.not_le.mpr beyond (inRange_iff.mpr present)
    rw [if_neg absent, if_neg absent]
    rcases remark_leaves obliging (LinkError.rangePieces (UInt8.ofNat number)) with
      ⟨later, said, leaves⟩
    refine ⟨later, ?_, ?_⟩
    · simp only [press, Link.toggle, checked]
      exact said
    · rw [LinkError.rangePieces, UInt8.toNat_ofNat_of_lt' small, String.join_cons,
        String.join_cons, String.join_cons, String.join_nil, String.append_empty,
        ← String.append_assoc] at leaves
      exact leaves

theorem answer_leaves (line : Bytes) :
    ∃ later, console.answer (.ok line) = (outcomeOf line, later) ∧
      Leaves console later (framesFor line) (remarkOn line) := by
  rw [answer, outcomeOf, framesFor, remarkOn]
  cases read : Text.ofBytes? line with
  | none =>
      have word : wordOf? line = none := by rw [wordOf?, read, Option.map_none]
      have unreadable : Except.bind (.ok line) readEntry = .error notText := by
        rw [Except.bind, readEntry, read]
      rw [word, unreadable]
      exact ⟨console, rfl, .refl obliging⟩
  | some text =>
      have word : wordOf? line = some (Text.trim text.toList) := by
        rw [wordOf?, read, Option.map_some]
      have entered : Except.bind (.ok line) readEntry = .ok (entryOf text) := by
        rw [Except.bind, readEntry, read]
      rw [word, entered, Option.bind_some]
      have means := entryOf_means text
      revert means
      generalize Text.trim text.toList = word, entryOf text = entry
      intro means
      cases means with
      | blank => exact ⟨console, rfl, .refl obliging⟩
      | quit quits =>
          simp only [quits, unsigned?_of_isQuit quits, or_true, if_true]
          exact ⟨console, rfl, .refl obliging⟩
      | button named =>
          rcases press_leaves obliging (Text.lt_of_unsigned? named) with
            ⟨later, pressed, leaves⟩
          refine ⟨later, ?_, ?_⟩
          · simp only [pressed, stays_of_unsigned? named]
            rfl
          · simp only [named, stays_of_unsigned? named, filled_of_unsigned? named,
              false_or]
            exact leaves
      | other filled stays unnamed =>
          rcases remark_leaves obliging ["not a button: ", String.ofList word] with
            ⟨later, said, leaves⟩
          rw [String.join_cons, String.join_cons, String.join_nil,
            String.append_empty] at leaves
          refine ⟨later, ?_, ?_⟩
          · simp only [said, stays]
            rfl
          · simp only [unnamed, stays, filled]
            exact leaves

theorem finish_leaves :
    ∃ later, console.finish = (.ok console.sent, later) ∧
    Leaves console later [] "\n" := by
  rcases remark_leaves obliging [] with ⟨later, said, leaves⟩
  refine ⟨later, ?_, leaves⟩
  rw [finish, said]
  exact congrArg (fun count => (Except.ok count, later)) leaves.sent

end Calls

/-! ## Conversations -/

def transcript (lines : List Bytes) : String :=
  String.join ((remarks lines).map (prompt ++ ·)) ++
    if isBrokenOff lines then "" else "\n"

section Lines

variable {line : Bytes}

theorem heeded_cons_of_closes (closing : closes line = true) (rest : List Bytes) :
    heeded (line :: rest) = [line] := by
  simp [heeded, closing]

theorem heeded_cons_of_not_closes (opening : closes line = false) (rest : List Bytes) :
    heeded (line :: rest) = line :: heeded rest := by
  simp [heeded, opening]

theorem outcomeOf_of_closes (closing : closes line = true) :
    outcomeOf line =
      if (wordOf? line).isNone then .error (.ofFailure "read failed" notText)
      else .ok .quit := by
  rw [closes] at closing
  rw [outcomeOf]
  cases read : wordOf? line with
  | none => rfl
  | some word =>
      rw [read, Option.all_some] at closing
      simp [closing]

theorem outcomeOf_of_not_closes (opening : closes line = false) :
    outcomeOf line = .ok .goOn := by
  rw [closes] at opening
  rw [outcomeOf]
  cases read : wordOf? line with
  | none => simp [read] at opening
  | some word =>
      rw [read, Option.all_some] at opening
      simp [opening]

theorem isBrokenOff_cons_of_closes (closing : closes line = true) (rest : List Bytes) :
    isBrokenOff (line :: rest) = (wordOf? line).isNone := by
  simp [isBrokenOff, heeded_cons_of_closes closing]

theorem isBrokenOff_cons_of_not_closes (opening : closes line = false)
    (rest : List Bytes) : isBrokenOff (line :: rest) = isBrokenOff rest := by
  have text : (wordOf? line).isNone = false := by
    cases read : wordOf? line with
    | none => simp [closes, read] at opening
    | some word => rfl
  simp [isBrokenOff, heeded_cons_of_not_closes opening, text]

theorem transcript_cons_of_closes (closing : closes line = true) (rest : List Bytes) :
    transcript (line :: rest) =
      prompt ++ remarkOn line ++ if (wordOf? line).isNone then "" else "\n" := by
  simp [transcript, remarks, heeded_cons_of_closes closing,
    isBrokenOff_cons_of_closes closing, closing]

theorem transcript_cons_of_not_closes (opening : closes line = false)
    (rest : List Bytes) :
    transcript (line :: rest) = prompt ++ remarkOn line ++ transcript rest := by
  simp [transcript, remarks, heeded_cons_of_not_closes opening,
    isBrokenOff_cons_of_not_closes opening, opening, String.append_assoc]

end Lines

theorem run_leaves {console : Console} (obliging : console.Obliging)
    (lines : List Bytes) :
    ∃ later,
      console.run (lines.map .ok) =
        (if isBrokenOff lines then .error (.ofFailure "read failed" notText)
          else .ok later.sent, later) ∧
      Leaves console later ((heeded lines).flatMap framesFor) (transcript lines) := by
  -- Each line leaves another obliging console, and the rest of the lines are answered
  -- from there.
  induction lines generalizing console with
  | nil =>
      rcases ask_leaves obliging with ⟨asked, asking, prompted⟩
      rcases finish_leaves prompted.obliging with ⟨later, finished, ended⟩
      refine ⟨later, ?_, prompted.trans ended⟩
      rw [ended.sent]
      simp only [List.map_nil, run, asking, finished]
      rfl
  | cons line rest induction =>
      rcases ask_leaves obliging with ⟨asked, asking, prompted⟩
      rcases answer_leaves prompted.obliging line with ⟨answered, answering, replied⟩
      have shown := prompted.trans replied
      rw [List.map_cons, run, asking]
      simp only [answering]
      cases closing : closes line with
      | false =>
          rcases induction shown.obliging with ⟨later, ran, others⟩
          refine ⟨later, ?_, ?_⟩
          · rw [outcomeOf_of_not_closes closing, isBrokenOff_cons_of_not_closes closing]
            exact ran
          · rw [heeded_cons_of_not_closes closing, transcript_cons_of_not_closes closing,
              List.flatMap_cons]
            exact shown.trans others
      | true =>
          rw [outcomeOf_of_closes closing, isBrokenOff_cons_of_closes closing,
            heeded_cons_of_closes closing, transcript_cons_of_closes closing,
            List.flatMap_singleton]
          cases (wordOf? line).isNone with
          | true =>
              refine ⟨answered, rfl, ?_⟩
              rw [if_pos rfl, String.append_empty]
              exact shown
          | false =>
              rcases finish_leaves shown.obliging with ⟨later, finished, ended⟩
              refine ⟨later, ?_, ?_⟩
              · rw [ended.sent]
                exact finished
              · rw [← List.append_nil (framesFor line)]
                exact shown.trans ended

/-- A conversation sends the toggles that its lines name, in order, and shows a prompt for
each attempt to read a line, with a remark behind it where the line names no button. Lines
behind the one that closes it have no effect. If that one is not text, the conversation
fails, and does not leave the line of its last prompt. -/
theorem run_transcript (input : Bytes) {terminal : Sink} {link : Link}
    (obliging : (start terminal link).Obliging) :
    let lines := Text.lines input
    let frames := (heeded lines).flatMap framesFor
    let outcome := (start terminal link).run (Input.lines { bytes := input })
    Text.IsSplit Text.newline input lines ∧
      outcome.2.link.written = link.written ++ frames.flatten ∧
      outcome.2.terminal.accepted = terminal.accepted ++
        Text.bytes (String.join ((remarks lines).map (prompt ++ ·)) ++
          if isBrokenOff lines then "" else "\n") ∧
      (isBrokenOff lines = false → outcome.1 = .ok frames.length) ∧
      (isBrokenOff lines = true →
        ∃ complaint, outcome.1 = .error complaint ∧ complaint.status.code = 125) := by
  intro lines frames outcome
  rcases run_leaves obliging lines with ⟨later, ran, leaves⟩
  have ended : outcome = _ := ran
  rw [ended]
  refine ⟨Text.splitLines_isSplit _ _, leaves.written, leaves.accepted, ?_, ?_⟩
  · intro whole
    rw [whole, leaves.sent]
    exact congrArg Except.ok (Nat.zero_add _)
  · intro broken
    rw [broken]
    exact ⟨_, rfl, rfl⟩

theorem run_transcript_each_kind :
    let terminal : Sink :=
      { writes := [.accept 3, .failure (.ofKind .interrupted)], flushes := [.done] }
    let link := Link.start 4 { script := [] } { writes := [.accept 1] }
    let outcome (input : Bytes) :=
      (start terminal link).run (Input.lines { bytes := input })
    let quitting := Text.bytes "24\n \t\nfive\n+05\r\n032\n Q\n6\n"
    let broken := Text.bytes "24\n" ++ 0xFF :: Text.bytes "\n5"
    let remarks :=
      ["", "", "not a button: five\n", "", "button 32 out of range (0-31)\n", ""]
    (start terminal link).Obliging ∧
      isBrokenOff (Text.lines quitting) = false ∧ isBrokenOff (Text.lines broken) = true ∧
      (outcome quitting).2.link.written =
        [Frame.encode [0x58], Frame.encode [0x45]].flatten ∧
      (outcome quitting).2.terminal.accepted =
        Text.bytes (String.join (remarks.map (prompt ++ ·)) ++ "\n") ∧
      (outcome quitting).1 = .ok 2 ∧
      (outcome broken).2.link.written = [Frame.encode [0x58]].flatten ∧
      (outcome broken).2.terminal.accepted =
        Text.bytes (String.join (["", ""].map (prompt ++ ·)) ++ "") ∧
      ∃ complaint, (outcome broken).1 = .error complaint ∧
        complaint.status.code = 125 := by
  intro terminal link outcome quitting broken remarks
  have obliging : (start terminal link).Obliging :=
    ⟨by constructor <;> decide, by decide, by constructor <;> decide, by decide⟩
  have whole : isBrokenOff (Text.lines quitting) = false := by decide +kernel
  have unreadable : isBrokenOff (Text.lines broken) = true := by decide +kernel
  have frames : (heeded (Text.lines quitting)).flatMap framesFor =
      [Frame.encode [0x58], Frame.encode [0x45]] := by decide +kernel
  have brokenFrames :
      (heeded (Text.lines broken)).flatMap framesFor = [Frame.encode [0x58]] := by
    decide +kernel
  have remarked : Console.remarks (Text.lines quitting) = remarks := by decide +kernel
  have brokenRemarked : Console.remarks (Text.lines broken) = ["", ""] := by
    decide +kernel
  rcases run_transcript quitting obliging with ⟨_, written, shown, sent, _⟩
  rcases run_transcript broken obliging with ⟨_, brokenWritten, brokenShown, _, failed⟩
  have blank : terminal.accepted = [] := rfl
  have silent : link.written = [] := rfl
  rw [frames] at written sent
  rw [silent, List.nil_append] at written
  rw [brokenFrames, silent, List.nil_append] at brokenWritten
  rw [remarked, whole, if_neg Bool.false_ne_true, blank, List.nil_append] at shown
  rw [brokenRemarked, unreadable, if_pos rfl, blank, List.nil_append] at brokenShown
  exact ⟨obliging, whole, unreadable, written, shown, sent whole, brokenWritten,
    brokenShown, failed unreadable⟩

end Console

end PanelLink
