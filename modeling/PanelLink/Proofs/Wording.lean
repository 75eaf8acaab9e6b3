import Mathlib.Algebra.Group.Nat.Defs
import PanelLink.Proofs.Spelling
import PanelLink.Proofs.Usage

/-!
The words for commands and durations, as a grammar beside the functions that read them: a
word is accepted if and only if the grammar has it, with the value that it has there, and
any other is a case of wrong usage. What is printed for a command is a word for it.
-/

namespace PanelLink

/-! ## Commands -/

namespace Command

inductive Names : List Char → Name → Prop where
  | refresh {name : List Char} (spelled : Text.InAnyCase "refresh" name) :
      Names name (.alone .refresh)
  | idle {name : List Char} (spelled : Text.InAnyCase "none" name) :
      Names name (.alone .idle)
  | toggle {name : List Char} (spelled : Text.InAnyCase "toggle" name) :
      Names name (.withButton .toggle)
  | on {name : List Char} (spelled : Text.InAnyCase "on" name) :
      Names name (.withButton .on)
  | off {name : List Char} (spelled : Text.InAnyCase "off" name) :
      Names name (.withButton .off)

structure Numbers (text : List Char) (button : UInt8) : Prop where
  present : button ≤ 31
  numbered : ∃ digits, Text.Trimmed text digits ∧ Text.Unsigned digits button.toNat

inductive Spells : List Char → Command → Prop where
  | alone {word : List Char} {command : Command} (named : Names word (.alone command)) :
      Spells word command
  | act {name number : List Char} {action : Action} {button : UInt8}
      (named : Names name (.withButton action)) (numbered : Numbers number button) :
      Spells (name ++ ':' :: number) (.act action button)

theorem nameOf?_eq_some_iff {name : List Char} {known : Name} :
    nameOf? name = some known ↔ Names name known := by
  constructor
  · intro found
    unfold nameOf? at found
    simp only at found
    split at found
    · cases found
      exact .refresh ((Text.map_toLower_eq_iff (by decide)).mp ‹_›)
    split at found
    · cases found
      exact .idle ((Text.map_toLower_eq_iff (by decide)).mp ‹_›)
    split at found
    · cases found
      exact .toggle ((Text.map_toLower_eq_iff (by decide)).mp ‹_›)
    split at found
    · cases found
      exact .on ((Text.map_toLower_eq_iff (by decide)).mp ‹_›)
    split at found
    · cases found
      exact .off ((Text.map_toLower_eq_iff (by decide)).mp ‹_›)
    · cases found
  · intro named
    unfold nameOf?
    cases named with
    | refresh spelled | idle spelled | toggle spelled | on spelled | off spelled =>
        rw [(Text.map_toLower_eq_iff (by decide)).mpr spelled]
        rfl

theorem colon_not_mem_of_names {name : List Char} {known : Name}
    (named : Names name known) : ':' ∉ name := by
  cases named with
  | refresh spelled | idle spelled | toggle spelled | on spelled | off spelled =>
      exact spelled.not_mem (by decide) (by decide)

theorem splitColon_of_not_mem {word : List Char} (absent : ':' ∉ word) :
    splitColon word = (word, none) := by
  induction word with
  | nil => rfl
  | cons character rest induction =>
      rw [List.mem_cons, not_or] at absent
      rw [splitColon, if_neg (Ne.symm absent.1), induction absent.2]

theorem splitColon_append {name : List Char} (absent : ':' ∉ name) (number : List Char) :
    splitColon (name ++ ':' :: number) = (name, some number) := by
  induction name with
  | nil => rfl
  | cons character rest induction =>
      rw [List.mem_cons, not_or] at absent
      rw [List.cons_append, splitColon, if_neg (Ne.symm absent.1), induction absent.2]

theorem eq_of_splitColon (word : List Char) :
    word = (splitColon word).1 ++ ((splitColon word).2.map (':' :: ·)).getD [] := by
  fun_induction splitColon word with
  | case1 => rfl
  | case2 rest => rfl
  | case3 character rest different name button split induction =>
      rw [split] at induction
      exact congrArg (character :: ·) induction

theorem buttonOf_of_unsigned {text digits : List Char}
    (trimmed : Text.Trimmed text digits) {button : UInt8}
    (unsigned : Text.Unsigned digits button.toNat) :
    buttonOf text = (Button.check button).mapError fun _ => .buttonOutOfRange button := by
  have read : Text.unsigned? UInt8.size digits = some button.toNat :=
    Text.unsigned?_eq_some_iff.mpr ⟨unsigned, button.toNat_lt⟩
  rw [buttonOf, Text.trim_of_trimmed trimmed, read]
  simp only [UInt8.ofNat_toNat]

theorem buttonOf_eq_ok_iff {text : List Char} {button : UInt8} :
    buttonOf text = .ok button ↔ Numbers text button := by
  constructor
  · intro accepted
    rw [buttonOf] at accepted
    split at accepted
    · cases accepted
    · rename_i value read
      rcases Text.unsigned?_eq_some_iff.mp read with ⟨unsigned, small⟩
      rw [Button.check] at accepted
      split at accepted
      · rename_i present
        cases accepted
        rw [← UInt8.toNat_ofNat_of_lt' small] at unsigned
        exact ⟨present, _, Text.trimmed_trim text, unsigned⟩
      · cases accepted
  · rintro ⟨present, digits, trimmed, unsigned⟩
    have inRange : button ≤ Button.last := present
    rw [buttonOf_of_unsigned trimmed unsigned, Button.check, if_pos inRange]
    rfl

theorem ofWord_eq_ok_iff {text : String} {command : Command} :
    ofWord text = .ok command ↔
    ∃ word, Text.Trimmed text.toList word ∧ Spells word command := by
  constructor
  · intro accepted
    refine ⟨Text.trim text.toList, Text.trimmed_trim _, ?_⟩
    have whole := eq_of_splitColon (Text.trim text.toList)
    rw [ofWord] at accepted
    cases split : splitColon (Text.trim text.toList) with
    | mk name number =>
        rw [split] at accepted whole
        rw [whole]
        simp only at accepted
        split at accepted
        · rename_i alone named
          cases accepted
          rw [Option.map_none, Option.getD_none, List.append_nil]
          exact .alone (nameOf?_eq_some_iff.mp named)
        · rename_i action number named
          cases read : buttonOf number with
          | error error =>
              rw [read] at accepted
              cases accepted
          | ok button =>
              rw [read] at accepted
              cases accepted
              exact .act (nameOf?_eq_some_iff.mp named) (buttonOf_eq_ok_iff.mp read)
        · cases accepted
        · cases accepted
        · cases accepted
  · rintro ⟨word, trimmed, spells⟩
    rw [ofWord, Text.trim_of_trimmed trimmed]
    cases spells with
    | alone named =>
        simp only [splitColon_of_not_mem (colon_not_mem_of_names named),
          nameOf?_eq_some_iff.mpr named]
    | act named numbered =>
        simp only [splitColon_append (colon_not_mem_of_names named),
          nameOf?_eq_some_iff.mpr named, buttonOf_eq_ok_iff.mpr numbered]
        rfl

theorem Spells.present {word : List Char} {command : Command}
    (spells : Spells word command) : ∀ button ∈ command.button?, button ≤ 31 := by
  intro button given
  cases spells with
  | alone named => cases named <;> cases given
  | act named numbered =>
      cases given
      exact numbered.present

/-! ### Printed commands -/

theorem names_name (action : Action) : Names action.name.toList (.withButton action) := by
  cases action with
  | toggle => exact .toggle (Text.inAnyCase_self _)
  | off => exact .off (Text.inAnyCase_self _)
  | on => exact .on (Text.inAnyCase_self _)

/-- What is printed for a button that does not exist is refused for that button. -/
theorem ofWord_text_act (action : Action) (button : UInt8) :
    ofWord (act action button).text =
      (checked action button).mapError fun _ => .buttonOutOfRange button := by
  have letters : (act action button).text.toList =
      action.name.toList ++ ':' :: (Nat.repr button.toNat).toList := by simp [text]
  have unsigned := Text.unsigned_repr button.toNat
  have solid :
      ∀ character ∈ (act action button).text.toList, Text.isBlank character = false := by
    intro character member
    rw [letters, List.mem_append, List.mem_cons] at member
    rcases member with inName | rfl | digit
    · have solidName : action.name.toList.any Text.isBlank = false := by
        cases action <;> decide
      exact Bool.eq_false_iff.mpr (List.any_eq_false.mp solidName character inName)
    · rfl
    · exact unsigned.isBlank_eq_false character digit
  have named := names_name action
  have read := buttonOf_of_unsigned (Text.trimmed_self unsigned.isBlank_eq_false) unsigned
  rw [ofWord, Text.trim_of_trimmed (Text.trimmed_self solid), letters]
  simp only [splitColon_append (colon_not_mem_of_names named),
    nameOf?_eq_some_iff.mpr named, read]
  rw [checked]
  cases Button.check button <;> rfl

theorem ofWord_text {command : Command}
    (present : ∀ button ∈ command.button?, button ≤ 31) :
    ofWord command.text = .ok command := by
  cases command with
  | idle => rfl
  | refresh => rfl
  | act action button =>
      have inRange : button ≤ Button.last := present button rfl
      rw [ofWord_text_act, checked, Button.check, if_pos inRange]
      rfl

/-- A text is accepted if and only if, without the blanks around it, it is a word for a
command: one of the names that stand alone, or one of the others with a colon and the
number of a button behind it. Any other text is wrong usage wherever it is given. What is
printed for a command with a button that exists is read as that command, and that covers
all that is ever read. -/
theorem ofWord_spelled (text : String) :
    (∀ command, ofWord text = .ok command ↔
      ∃ word, Text.Trimmed text.toList word ∧ Spells word command) ∧
    ((∀ word command, Text.Trimmed text.toList word → ¬Spells word command) →
      (∃ error, ofWord text = .error error) ∧
      ∀ arguments host words, arguments.request = .send words → text ∈ words →
        (Program.run arguments host).ending.exitCode? = some 64) ∧
    (∀ command, (∀ button ∈ command.button?, button ≤ 31) →
      ofWord command.text = .ok command) ∧
    ∀ command, ofWord text = .ok command → ofWord command.text = .ok command := by
  refine ⟨fun command => ofWord_eq_ok_iff, ?_, fun command => ofWord_text, ?_⟩
  · intro foreign
    cases read : ofWord text with
    | ok command =>
        rcases ofWord_eq_ok_iff.mp read with ⟨word, trimmed, spells⟩
        exact absurd spells (foreign word command trimmed)
    | error error =>
        refine ⟨⟨error, rfl⟩, ?_⟩
        intro arguments host words asked member
        apply Program.exitCode?_of_invalid
        left
        rw [asked]
        exact ⟨text, member, by rw [read]; rfl⟩
  · intro command accepted
    rcases ofWord_eq_ok_iff.mp accepted with ⟨word, _, spells⟩
    exact ofWord_text spells.present

theorem ofWord_spelled_signed :
    let word := "tOGGLE: +007".toList
    let arguments : Arguments :=
      { device := "/dev/ttyUSB0", baud := 9600, timeout := "1s", format := none
        logFormat := .text, logLevel := .info, request := .send ["none", "on:3:4"] }
    let host : Host := { attachment := fun _ => .present {} { script := [] } }
    Text.Trimmed " tOGGLE: +007\t".toList word ∧ Spells word (.act .toggle 7) ∧
      ofWord " tOGGLE: +007\t" = .ok (.act .toggle 7) ∧
        ofWord "toggle:7" = .ok (.act .toggle 7) ∧
      (∃ error, ofWord "on:3:4" = .error error) ∧
      (Program.run arguments host).ending.exitCode? = some 64 := by
  intro word arguments host
  have trimmed : Text.Trimmed " tOGGLE: +007\t".toList word :=
    Text.trim_eq_iff.mp (by decide +kernel)
  have numeral : Text.Numeral Text.decimal ['0', '0', '7'] 7 :=
    Text.digitsFrom?_eq_some_iff.mp rfl
  have numbers : Numbers " +007".toList 7 :=
    ⟨by decide, "+007".toList, Text.trim_eq_iff.mp (by decide +kernel),
      .plus (by decide) numeral⟩
  have named : Names "tOGGLE".toList (.withButton .toggle) :=
    nameOf?_eq_some_iff.mp (by decide +kernel)
  have spells : Spells word (.act .toggle 7) := .act named numbers
  rcases ofWord_spelled " tOGGLE: +007\t" with ⟨accepted, _, _, again⟩
  have read := (accepted (.act .toggle 7)).mpr ⟨word, trimmed, spells⟩
  have printed : (act .toggle 7).text = "toggle:7" := by decide +kernel
  have readAgain := again _ read
  rw [printed] at readAgain
  rcases ofWord_spelled "on:3:4" with ⟨_, refused, _⟩
  have foreign :
      ∀ word command, Text.Trimmed "on:3:4".toList word → ¬Spells word command := by
    intro word command trimmed spells
    have read : ofWord "on:3:4" = .ok command :=
      ofWord_eq_ok_iff.mpr ⟨word, trimmed, spells⟩
    have wrong : ofWord "on:3:4" = .error (.invalidButton "3:4") := by decide +kernel
    cases read.symm.trans wrong
  rcases refused foreign with ⟨error, usage⟩
  exact ⟨trimmed, spells, read, readAgain, error, usage arguments host _ rfl (by decide)⟩

end Command

/-! ## Durations -/

namespace Duration

inductive Marks : List Char → TimeUnit → Prop where
  | milliseconds : Marks ['m', 's'] .milliseconds
  | seconds : Marks ['s'] .seconds
  | bare : Marks [] .seconds

def Lasts (duration : Duration) (value : Nat) : TimeUnit → Prop
  | .milliseconds =>
      duration.seconds = value / 1000 ∧ duration.restNanos = 1000000 * (value % 1000)
  | .seconds => duration.seconds = value ∧ duration.restNanos = 0

inductive Spells : List Char → Duration → Prop where
  | counted {number suffix : List Char} {value : Nat} {unit : TimeUnit}
      {duration : Duration} (unsigned : Text.Unsigned number value)
      (positive : 1 ≤ value) (bounded : value < 2 ^ 64) (marked : Marks suffix unit)
      (lasts : duration.Lasts value unit) : Spells (number ++ suffix) duration

theorem eq_ofUnit_iff {duration : Duration} {value : Nat} {unit : TimeUnit} :
    duration = ofUnit value unit ↔ duration.Lasts value unit := by
  cases duration with
  | mk nanos =>
      cases unit with
      | milliseconds =>
          simp only [ofUnit, ofMillis, Lasts, seconds, restNanos, mk.injEq]
          omega
      | seconds =>
          simp only [ofUnit, ofSeconds, Lasts, seconds, restNanos, mk.injEq]
          omega

theorem splitUnit_append {number suffix : List Char} {unit : TimeUnit}
    (marked : Marks suffix unit)
    (ends : ∀ character ∈ number.getLast?, character ≠ 'm' ∧ character ≠ 's') :
    splitUnit (number ++ suffix) = (number, unit) := by
  rw [← List.reverse_reverse number, List.getLast?_reverse] at ends
  rw [← List.reverse_reverse number]
  generalize number.reverse = reversed at ends ⊢
  unfold splitUnit
  rw [List.reverse_append, List.reverse_reverse]
  cases marked with
  | milliseconds => rfl
  | seconds =>
      cases reversed with
      | nil => rfl
      | cons last others =>
          have plain := (ends last rfl).1
          simp [plain]
  | bare =>
      cases reversed with
      | nil => rfl
      | cons last others =>
          have plain := (ends last rfl).2
          simp [plain]

theorem exists_marks_splitUnit (word : List Char) :
    ∃ suffix, Marks suffix (splitUnit word).2 ∧ word = (splitUnit word).1 ++ suffix := by
  unfold splitUnit
  split
  · rename_i number reversed
    exact ⟨_, .milliseconds, by simpa using congrArg List.reverse reversed⟩
  · rename_i number reversed
    exact ⟨_, .seconds, by simpa using congrArg List.reverse reversed⟩
  · exact ⟨_, .bare, (List.append_nil word).symm⟩

theorem ofWord_eq_ok_iff {text : String} {duration : Duration} :
    ofWord text = .ok duration ↔
    ∃ word, Text.Trimmed text.toList word ∧ Spells word duration := by
  constructor
  · intro accepted
    refine ⟨Text.trim text.toList, Text.trimmed_trim _, ?_⟩
    unfold ofWord at accepted
    generalize Text.trim text.toList = word at accepted ⊢
    rcases exists_marks_splitUnit word with ⟨suffix, marked, whole⟩
    split at accepted
    · cases accepted
    cases split : splitUnit word with
    | mk number unit =>
        rw [split] at accepted marked whole
        simp only at accepted
        split at accepted
        · cases accepted
        · rename_i value read
          rcases Text.unsigned?_eq_some_iff.mp read with ⟨unsigned, bounded⟩
          split at accepted
          · cases accepted
          · rename_i positive
            cases accepted
            rw [whole]
            exact .counted unsigned (Nat.pos_of_ne_zero positive) bounded marked
              (eq_ofUnit_iff.mp rfl)
  · rintro ⟨word, trimmed, spells⟩
    unfold ofWord
    rw [Text.trim_of_trimmed trimmed]
    cases spells with
    | @counted number suffix value unit _ unsigned positive bounded marked lasts =>
        have plain :
            ∀ character ∈ number.getLast?, character ≠ 'm' ∧ character ≠ 's' := by
          intro character last
          have digit := unsigned.ends character last
          exact ⟨ne_of_mem_of_not_mem digit (by decide),
            ne_of_mem_of_not_mem digit (by decide)⟩
        have split := splitUnit_append marked plain
        have read : Text.unsigned? numberBound number = some value :=
          Text.unsigned?_eq_some_iff.mpr ⟨unsigned, bounded⟩
        split
        · rename_i empty
          exact absurd empty (List.append_ne_nil_of_left_ne_nil unsigned.ne_nil suffix)
        · simp only [split, read]
          rw [if_neg (Nat.ne_of_gt positive), eq_ofUnit_iff.mpr lasts]

/-- Where a duration is asked for: as the time limit of a device that is opened, and
between refreshes. -/
inductive Asks (text : String) : Arguments → Prop where
  | timeout {arguments : Arguments} (opens : arguments.request.opensDevice = true)
      (given : arguments.timeout = text) : Asks text arguments
  | interval {arguments : Arguments} {count : Option Nat} {strict refresh : Bool}
      (given : arguments.request = .monitor count strict refresh (some text)) :
      Asks text arguments

/-- A text is accepted if and only if, without the blanks around it, it is a word for a
duration: a number from one up to the last in sixty-four bits with the mark of its unit
right behind it. The duration is exactly that number of units. Any other text is wrong
usage wherever a duration is asked for. -/
theorem ofWord_counted (text : String) :
    (∀ duration, ofWord text = .ok duration ↔
      ∃ word, Text.Trimmed text.toList word ∧ Spells word duration) ∧
    ((∀ word duration, Text.Trimmed text.toList word → ¬Spells word duration) →
      (∃ error, ofWord text = .error error) ∧
      ∀ arguments host, Asks text arguments →
      (Program.run arguments host).ending.exitCode? = some 64) := by
  refine ⟨fun duration => ofWord_eq_ok_iff, ?_⟩
  intro foreign
  cases read : ofWord text with
  | ok duration =>
      rcases ofWord_eq_ok_iff.mp read with ⟨word, trimmed, spells⟩
      exact absurd spells (foreign word duration trimmed)
  | error error =>
      refine ⟨⟨error, rfl⟩, ?_⟩
      intro arguments host asks
      apply Program.exitCode?_of_invalid
      cases asks with
      | timeout opens given =>
          right
          refine ⟨opens, ?_⟩
          rw [given, read]
          rfl
      | interval given =>
          left
          rw [given]
          exact ⟨text, rfl, by rw [read]; rfl⟩

theorem ofWord_counted_largest :
    let text := "\n+00018446744073709551615ms "
    let arguments : Arguments :=
      { device := "/dev/ttyUSB0", baud := 9600, timeout := "000s", format := none
        logFormat := .text, logLevel := .info, request := .toggle [] }
    let host : Host := { attachment := fun _ => .present {} { script := [] } }
    Spells "+00018446744073709551615ms".toList (.ofMillis (2 ^ 64 - 1)) ∧
      ofWord text = .ok (.ofMillis (2 ^ 64 - 1)) ∧
      (∃ error, ofWord "000s" = .error error) ∧ Asks "000s" arguments ∧
      (Program.run arguments host).ending.exitCode? = some 64 := by
  intro text arguments host
  have trimmed : Text.Trimmed text.toList "+00018446744073709551615ms".toList :=
    Text.trim_eq_iff.mp (by decide +kernel)
  have unsigned : Text.Unsigned "+00018446744073709551615".toList (2 ^ 64 - 1) :=
    .plus (by decide) (Text.digitsFrom?_eq_some_iff.mp (by decide +kernel))
  have spells : Spells "+00018446744073709551615ms".toList (.ofMillis (2 ^ 64 - 1)) :=
    .counted unsigned (by decide) (by decide) .milliseconds ⟨rfl, rfl⟩
  have foreign :
      ∀ word duration, Text.Trimmed "000s".toList word → ¬Spells word duration := by
    intro word duration trimmed spells
    have read : ofWord "000s" = .ok duration :=
      ofWord_eq_ok_iff.mpr ⟨word, trimmed, spells⟩
    have wrong : ofWord "000s" = .error .zero := by decide +kernel
    cases read.symm.trans wrong
  rcases (ofWord_counted "000s").2 foreign with ⟨refused, usage⟩
  have asks : Asks "000s" arguments := .timeout rfl rfl
  exact ⟨spells, ((ofWord_counted text).1 _).mpr ⟨_, trimmed, spells⟩, refused, asks,
    usage arguments host asks⟩

end Duration

end PanelLink
