import PanelLink.Proofs.Wording

/-!
Toggling buttons is the same as sending the words for their toggles: both end with the
same exit code, do the same to the device and print the same. They differ in what they say
of a button that does not exist, and in nothing else. It makes no difference whether the
arguments are given as such or read off the command line.
-/

namespace PanelLink

def toggleWord (button : UInt8) : String := "toggle:" ++ Nat.repr button.toNat

def buttonWord (button : UInt8) : String := Nat.repr button.toNat

theorem ofWord_toggleWord (button : UInt8) :
    Command.ofWord (toggleWord button) =
      (Command.checked .toggle button).mapError fun _ => .buttonOutOfRange button :=
  Command.ofWord_text_act .toggle button

variable {buttons : List UInt8}

namespace Program

/-! ## Given arguments -/

theorem run_of_present (arguments : Arguments) (host : Host) (given : buttons ≠ [])
    (present : ∀ button ∈ buttons, button ≤ 31) :
    run { arguments with request := .toggle buttons } host =
      run { arguments with request := .send (buttons.map toggleWord) } host := by
  have passed :
      ∀ button ∈ buttons, Command.checked .toggle button = .ok (.act .toggle button) := by
    intro button member
    rcases Command.checked_cases .toggle button with ⟨_, checked⟩ | ⟨absent, _⟩
    · exact checked
    · exact absurd (present button member) (UInt8.not_le.mpr absent)
  have read :
      ∀ button ∈ buttons,
        (Command.ofWord ∘ toggleWord) button = .ok (.act .toggle button) := by
    intro button member
    rw [Function.comp_apply, ofWord_toggleWord, passed button member]
    rfl
  have commands := mapM_eq_ok_map passed
  have words :
      (buttons.map toggleWord).mapM Command.ofWord =
        .ok (buttons.map (.act .toggle)) := by
    rw [List.mapM_map, mapM_eq_ok_map read]
  have nonempty : ¬buttons.isEmpty = true := by rwa [List.isEmpty_iff]
  simp only [run, toggle, send, if_neg nonempty, commands, words]
  rfl

/-- A run that toggles buttons and one that sends words are alike. If one of the buttons
does not exist, they may report it in different ways, and the device is not even opened.
-/
structure Alike (buttons : List UInt8) (toggled sent : Execution) : Prop where
  exitCode : toggled.exitCode = sent.exitCode
  output : toggled.output = sent.output
  device : toggled.device = sent.device
  present : (∀ button ∈ buttons, button ≤ 31) → toggled = sent
  absent : (∃ button ∈ buttons, 31 < button) →
    toggled.device = .untouched ∧ toggled.device.written = []

theorem Alike.of_eq {toggled sent : Execution} (same : toggled = sent)
    (absent : (∃ button ∈ buttons, 31 < button) → toggled.device = .untouched) :
    Alike buttons toggled sent := by
  refine ⟨by rw [same], by rw [same], by rw [same], fun _ => same, fun some => ?_⟩
  rw [absent some]
  exact ⟨rfl, rfl⟩

theorem run_alike (arguments : Arguments) (host : Host) (given : buttons ≠ []) :
    Alike buttons (.ofOutcome (run { arguments with request := .toggle buttons } host))
      (.ofOutcome
        (run { arguments with request := .send (buttons.map toggleWord) } host)) := by
  by_cases present : ∀ button ∈ buttons, button ≤ 31
  · apply Alike.of_eq
    · rw [run_of_present arguments host given present]
    · rintro ⟨button, member, absent⟩
      exact absurd (present button member) (UInt8.not_le.mpr absent)
  · have missing := present
    simp only [not_forall, UInt8.not_le] at missing
    rcases missing with ⟨button, member, absent⟩
    have refused : (Command.ofWord (toggleWord button)).isOk = false := by
      rcases Command.checked_cases .toggle button with ⟨present, _⟩ | ⟨_, checked⟩
      · exact absurd present (UInt8.not_le.mpr absent)
      · rw [ofWord_toggleWord, checked]
        rfl
    have invalidToggle : { arguments with request := .toggle buttons }.Invalid :=
      .inl ⟨button, member, absent⟩
    have invalidSend :
        { arguments with request := .send (buttons.map toggleWord) }.Invalid :=
      .inl ⟨toggleWord button, List.mem_map_of_mem member, refused⟩
    rcases run_of_invalid invalidToggle host with ⟨complaint, blamed, toggled⟩
    rcases run_of_invalid invalidSend host with ⟨other, alsoBlamed, sent⟩
    rw [toggled, sent]
    refine ⟨?_, rfl, rfl, fun all => absurd all present, fun _ => ⟨rfl, rfl⟩⟩
    change some complaint.status.code = some other.status.code
    rw [blamed, alsoBlamed]

end Program

/-! ## The environment behind the words

The words behind the subcommand are carried along while the environment is read.
-/

namespace Arguments

namespace Given

def withWords (words : List String) (buttons : List UInt8) (given : Given) : Given :=
  { given with words, buttons }

variable (words : List String) (buttons : List UInt8)

theorem store_withWords (given : Given) (text : String) (setting : Setting) :
    (given.withWords words buttons).store text setting =
      (given.store text setting).map (withWords words buttons) := by
  cases setting <;> (simp only [store, map_map_except]; rfl)

theorem fromEnvironment_withWords (environment : Environment) (given : Given) :
    (given.withWords words buttons).fromEnvironment environment =
      (given.fromEnvironment environment).map (withWords words buttons) := by
  rcases environment with ⟨device, baud, logFormat, logLevel⟩
  unfold fromEnvironment
  -- What is done after each of the variables, the last one first.
  lift_lets
  extract_lets afterFormat afterBaud afterDevice
  have level given :
      afterFormat (given.withWords words buttons) =
        (afterFormat given).map (withWords words buttons) := by
    rcases given with ⟨_, _, _, _, _, _ | _⟩ <;> cases logLevel <;>
      first | rfl | exact store_withWords ..
  have format given :
      afterBaud (given.withWords words buttons) =
        (afterBaud given).map (withWords words buttons) := by
    rcases given with ⟨_, _, _, _, _ | _⟩ <;> cases logFormat <;>
      first | exact level _ | exact bind_eq_map_bind (store_withWords ..) level
  have rate given :
      afterDevice (given.withWords words buttons) =
        (afterDevice given).map (withWords words buttons) := by
    rcases given with ⟨_, _ | _⟩ <;> cases baud <;>
      first | exact format _ | exact bind_eq_map_bind (store_withWords ..) format
  rcases given with ⟨_ | _⟩ <;> cases device <;>
    first | exact rate _ | exact bind_eq_map_bind (store_withWords ..) rate

end Given

/-! ## The words behind the subcommand -/

theorem shapeOf_eq_plain {word : String} (unmarked : ∀ rest, word.toList ≠ '-' :: rest) :
    shapeOf word = .plain := by
  unfold shapeOf
  split
  case h_4 => rfl
  all_goals exact absurd ‹word.toList = _› (unmarked _)

theorem take_plain {subcommand : Subcommand}
    (takes : subcommand = .send ∨ subcommand = .toggle) {word : String}
    (plain : shapeOf word = .plain) (before : List String) :
    LevelState.take (.inside subcommand) word { pending := .words before } =
      .ok { pending := .words (before ++ [word]) } := by
  simp only [LevelState.take, plain]
  rcases takes with rfl | rfl <;> rfl

theorem readInside_plain {subcommand : Subcommand}
    (takes : subcommand = .send ∨ subcommand = .toggle) {words : List String}
    (plain : ∀ word ∈ words, shapeOf word = .plain) (before : List String) :
    readInside (.inside subcommand) words { pending := .words before } =
      LevelState.settle (.inside subcommand) { pending := .words (before ++ words) } := by
  induction words generalizing before with
  | nil => rw [List.append_nil, readInside]
  | cons word rest induction =>
      have plainRest := fun word member => plain word (List.mem_cons_of_mem _ member)
      rw [readInside, take_plain takes (plain word List.mem_cons_self),
        List.append_cons before word rest]
      exact induction plainRest _

theorem readInside_words {subcommand : Subcommand}
    (takes : subcommand = .send ∨ subcommand = .toggle) {words : List String}
    (given : words ≠ []) (plain : ∀ word ∈ words, shapeOf word = .plain) :
    readInside (.inside subcommand) words {} =
      LevelState.settle (.inside subcommand) { pending := .words words } := by
  cases words with
  | nil => exact absurd rfl given
  | cons word rest =>
      have plainWord := plain word List.mem_cons_self
      have first :
          LevelState.take (.inside subcommand) word {} =
            .ok { pending := .words [word] } := by
        simp only [LevelState.take, plainWord]
        rcases takes with rfl | rfl <;> rfl
      rw [readInside, first]
      exact readInside_plain takes (fun word member =>
        plain word (List.mem_cons_of_mem _ member)) [word]

theorem ne_minus_of_unsigned {text : List Char} {value : Nat}
    (unsigned : Text.Unsigned text value) (rest : List Char) : text ≠ '-' :: rest := by
  rintro rfl
  cases unsigned with
  | plain filled numeral =>
      exact absurd (numeral.mem_alphabet '-' List.mem_cons_self) (by decide)

theorem buttonOf_buttonWord (button : UInt8) :
    buttonOf (buttonWord button) = .ok button := by
  have unsigned := Text.unsigned_repr button.toNat
  have read : Text.signed? UInt8.size (buttonWord button).toList = some button.toNat := by
    unfold Text.signed?
    split
    · rename_i spelled
      exact absurd spelled (ne_minus_of_unsigned unsigned _)
    · exact Text.unsigned?_eq_some_iff.mpr ⟨unsigned, button.toNat_lt⟩
  rw [buttonOf, read]
  exact congrArg Except.ok UInt8.ofNat_toNat

theorem readInside_toggle (given : buttons ≠ []) :
    readInside (.inside .toggle) (buttons.map buttonWord) {} =
      .ok { given := Given.withWords [] buttons {} } := by
  have plain : ∀ word ∈ buttons.map buttonWord, shapeOf word = .plain := by
    intro word member
    rcases List.mem_map.mp member with ⟨button, _, rfl⟩
    exact shapeOf_eq_plain (ne_minus_of_unsigned (Text.unsigned_repr _))
  have numbers : ∀ button ∈ buttons, (buttonOf ∘ buttonWord) button = .ok (id button) :=
    fun button _ => buttonOf_buttonWord button
  rw [readInside_words (.inr rfl) (mt List.map_eq_nil_iff.mp given) plain]
  simp only [LevelState.settle, Given.addWords]
  rw [List.mapM_map, mapM_eq_ok_map numbers, List.map_id]
  rfl

theorem readInside_send (given : buttons ≠ []) :
    readInside (.inside .send) (buttons.map toggleWord) {} =
      .ok { given := Given.withWords (buttons.map toggleWord) [] {} } := by
  have plain : ∀ word ∈ buttons.map toggleWord, shapeOf word = .plain := by
    intro word member
    rcases List.mem_map.mp member with ⟨button, _, rfl⟩
    apply shapeOf_eq_plain
    intro rest spelled
    rw [toggleWord, String.toList_append] at spelled
    exact absurd (List.cons.inj spelled).1 (by decide)
  rw [readInside_words (.inl rfl) (mt List.map_eq_nil_iff.mp given) plain]
  rfl

/-! ## The words before the subcommand -/

theorem readTop_append {options : List String} (rest : List String)
    {start state : LevelState} (read : readTop options start = .ok (state, none)) :
    readTop (options ++ rest) start = readTop rest state := by
  induction options generalizing start with
  | nil =>
      cases read
      rfl
  | cons word later induction =>
      rw [List.cons_append, readTop]
      rw [readTop] at read
      split at read
      · rename_i value
        rw [if_pos value]
        exact bind_eq_of_bind_eq_ok read fun _ => induction
      · rename_i free
        rw [if_neg free]
        split at read
        · cases read
        · rename_i other
          rw [if_neg other]
          cases named : Subcommand.ofName? word with
          | some subcommand =>
              rw [named] at read
              cases read
          | none =>
              rw [named] at read
              exact bind_eq_of_bind_eq_ok read fun _ => induction

/-- The words are options with their values, so that a subcommand can stand behind them.
-/
structure Leads (options : List String) (state : LevelState) : Prop where
  read : readTop options {} = .ok (state, none)
  undivided : state.trailing = false
  complete : state.wantsValue = false

variable {options : List String} {state : LevelState}

theorem Leads.readTop_subcommand (leads : Leads options state) {name : String}
    {subcommand : Subcommand} (named : Subcommand.ofName? name = some subcommand)
    (words : List String) :
    readTop (options ++ name :: words) {} = .ok (state, some (subcommand, words)) := by
  have free : ¬(state.trailing || state.wantsValue) = true := by
    rw [leads.undivided, leads.complete]
    decide
  have other : name ≠ "help" := by
    rintro rfl
    cases named
  rw [readTop_append _ leads.read, readTop, if_neg free, if_neg other, named]

/-! ## The command line -/

def beforeRequest (environment : Environment) (state : LevelState) :
    Except Fault Arguments := do
  let complete ← Given.fromEnvironment environment {}
  let top := (← state.settle .top).given
  let _ ← top.fromEnvironment environment
  return merge top {} complete .ports

theorem parse_of_readInside (leads : Leads options state) {name : String}
    {subcommand : Subcommand} (named : Subcommand.ofName? name = some subcommand)
    {texts words : List String}
    (read : readInside (.inside subcommand) texts {} =
      .ok { given := Given.withWords words buttons {} })
    (enough : ¬(subcommand = .send ∧ words.isEmpty)) (environment : Environment) :
    parse environment (options ++ name :: texts) =
      (beforeRequest environment state).map
        ({ · with
          request := requestOf (Given.withWords words buttons {}) subcommand }) := by
  have both : inside subcommand environment texts =
      (Given.fromEnvironment environment {}).map fun complete =>
        (Given.withWords words buttons {}, complete.withWords words buttons) := by
    rw [inside, read]
    change
      (Given.fromEnvironment environment (Given.withWords words buttons {}) >>= _) = _
    rw [Given.fromEnvironment_withWords]
    cases Given.fromEnvironment environment {} with
    | error fault => rfl
    | ok complete => exact if_neg enough
  rw [parse, leads.readTop_subcommand named]
  change (inside subcommand environment texts >>= _) = _
  rw [both, beforeRequest]
  cases Given.fromEnvironment environment {} with
  | error fault => rfl
  | ok complete =>
      cases state.settle .top with
      | error fault => rfl
      | ok settled =>
          change (settled.given.fromEnvironment environment >>= _) =
            (settled.given.fromEnvironment environment >>= _).map _
          cases settled.given.fromEnvironment environment <;> rfl

theorem parse_toggle (leads : Leads options state) (environment : Environment)
    (given : buttons ≠ []) :
    parse environment (options ++ "toggle" :: buttons.map buttonWord) =
      (beforeRequest environment state).map ({ · with request := .toggle buttons }) :=
  parse_of_readInside leads rfl (readInside_toggle given) (by decide) environment

theorem parse_send (leads : Leads options state) (environment : Environment)
    (given : buttons ≠ []) :
    parse environment (options ++ "send" :: buttons.map toggleWord) =
      (beforeRequest environment state).map
        ({ · with request := .send (buttons.map toggleWord) }) :=
  parse_of_readInside leads rfl (readInside_send given) (by simpa using given) environment

end Arguments

namespace Program

/-- Toggling buttons is sending the words for their toggles, for the same settings and on
the same host. This holds of arguments that are given as such and of those that are read
off a command line, whatever the environment and the options before the subcommand. -/
theorem toggle_as_send (given : buttons ≠ []) (host : Host) :
    (∀ arguments : Arguments,
      Alike buttons (.ofOutcome (run { arguments with request := .toggle buttons } host))
        (.ofOutcome
          (run { arguments with request := .send (buttons.map toggleWord) } host))) ∧
    ∀ environment options state, Arguments.Leads options state →
      Alike buttons
        (execute environment (options ++ "toggle" :: buttons.map buttonWord) host)
        (execute environment (options ++ "send" :: buttons.map toggleWord) host) := by
  refine ⟨fun arguments => run_alike arguments host given,
    fun environment options state leads => ?_⟩
  rw [execute, execute, Arguments.parse_toggle leads environment given,
    Arguments.parse_send leads environment given]
  cases Arguments.beforeRequest environment state with
  | error fault => exact .of_eq rfl fun _ => rfl
  | ok arguments => exact run_alike arguments host given

theorem toggle_as_send_behind_options :
    let host : Host := { attachment := fun _ => .present {} { script := [] } }
    let environment : Arguments.Environment := { baud := some "9600" }
    let options := ["--device", "/dev/ttyACM0", "--format=json"]
    execute environment (options ++ ["toggle", "0", "31"]) host =
        execute environment (options ++ ["send", "toggle:0", "toggle:31"]) host ∧
      (execute environment (options ++ ["toggle", "3", "32"]) host).exitCode =
        (execute environment (options ++ ["send", "toggle:3", "toggle:32"])
          host).exitCode ∧
      (execute environment (options ++ ["toggle", "3", "32"]) host).device.written =
        [] := by
  intro host environment options
  have leads : Arguments.Leads options
      { given := { device := some "/dev/ttyACM0", format := some .json } } :=
    ⟨by decide +kernel, rfl, rfl⟩
  have existing : Alike [0, 31] _ _ :=
    (toggle_as_send (by decide) host).2 environment options _ leads
  have missing : Alike [3, 32] _ _ :=
    (toggle_as_send (by decide) host).2 environment options _ leads
  exact ⟨existing.present (by simp), missing.exitCode,
    (missing.absent ⟨32, by decide, by decide⟩).2⟩

end Program

end PanelLink
