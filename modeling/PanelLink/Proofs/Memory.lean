import PanelLink.Proofs.Reading

/-!
An inlet holds little and reads late. It holds at most one chunk of bytes that are not yet
fed, and its receiver at most as many as the limit allows. It reads when the last byte it
holds has been fed and has come to nothing, so that a call that needs no more bytes leaves
the source alone.
-/

namespace PanelLink

/-! ## What a receiver holds -/

namespace Receiver

structure Bounded (limit : Nat) (receiver : Receiver) : Prop where
  limit_eq : receiver.limit = limit
  buffer_le : receiver.buffer.length ≤ limit
  unbroken : Escape.endByte ∉ receiver.buffer
  empty : receiver.state = .discarding → receiver.buffer = []

theorem bounded_empty (limit : Nat) (state : State) : Bounded limit ⟨limit, [], state⟩ :=
  ⟨rfl, Nat.zero_le limit, List.not_mem_nil, fun _ => rfl⟩

theorem bounded_accumulating {limit : Nat} {buffer : Bytes}
    (within : buffer.length ≤ limit) (unbroken : Escape.endByte ∉ buffer) :
    Bounded limit ⟨limit, buffer, .accumulating⟩ :=
  ⟨rfl, within, unbroken, fun discarding => nomatch discarding⟩

theorem Bounded.feed {limit : Nat} {receiver : Receiver}
    (bounded : receiver.Bounded limit) (byte : UInt8) :
    (receiver.feed byte).2.Bounded limit := by
  rcases receiver with ⟨own, buffer, state⟩
  cases bounded.limit_eq
  cases state with
  | discarding =>
      rw [Receiver.feed]
      dsimp only
      split
      · exact bounded_accumulating bounded.buffer_le bounded.unbroken
      · exact bounded
  | accumulating =>
      rw [Receiver.feed]
      dsimp only
      split
      · exact bounded_empty own .accumulating
      · rename_i different
        split
        · exact bounded_empty own .discarding
        · rename_i below
          apply bounded_accumulating
          · rw [List.length_append]
            exact Nat.lt_of_not_le below
          · rw [List.mem_append, List.mem_singleton]
            exact not_or.mpr ⟨bounded.unbroken, Ne.symm different⟩

theorem Bounded.reset {limit : Nat} {receiver : Receiver}
    (bounded : receiver.Bounded limit) : receiver.reset.Bounded limit := by
  rw [Receiver.reset, bounded.limit_eq]
  exact bounded_empty limit .accumulating

end Receiver

theorem Source.length_read_le (capacity : Nat) (source : Source) :
    (source.read capacity).1.bytes.length ≤ capacity := by
  unfold read
  split
  · cases source.afterwards <;> exact Nat.zero_le capacity
  · exact Nat.zero_le capacity
  · split
    · assumption
    · exact List.length_take_le _ _

/-! ## The turns of a call -/

namespace Inlet

/-- A call in its turns: the inlet before each of them, what the last comes to, and the
inlet behind it. -/
inductive Call : Inlet → List Inlet → Except FrameError Frame → Inlet → Prop where
  | last {inlet later : Inlet} {result : Except FrameError Frame}
      (ended : inlet.turn = (some result, later)) : Call inlet [inlet] result later
  | next {inlet following later : Inlet} {moments : List Inlet}
      {result : Except FrameError Frame} (went : inlet.turn = (none, following)) :
      Call following moments result later → Call inlet (inlet :: moments) result later

theorem receive_call (inlet : Inlet) :
    ∃ moments, Call inlet moments inlet.receive.1 inlet.receive.2 := by
  fun_induction receive inlet with
  | case1 inlet result later ended => exact ⟨[inlet], .last ended⟩
  | case2 inlet following went induction =>
      rcases induction with ⟨moments, call⟩
      exact ⟨inlet :: moments, .next went call⟩

theorem Call.receive_eq {inlet later : Inlet} {moments : List Inlet}
    {result : Except FrameError Frame} (call : Call inlet moments result later) :
    inlet.receive = (result, later) := by
  induction call with
  | last ended =>
      rw [receive]
      split <;> rename_i turned <;> cases ended.symm.trans turned
      rfl
  | next went _ induction =>
      rw [receive]
      split <;> rename_i turned <;> cases went.symm.trans turned
      exact induction

/-! ## What an inlet holds -/

structure Bounded (limit : Nat) (inlet : Inlet) : Prop where
  pending_le : inlet.pending.length ≤ 256
  receiver : inlet.receiver.Bounded limit

theorem bounded_start (limit : Nat) (source : Source) :
    (start limit source).Bounded limit :=
  ⟨Nat.zero_le 256, Receiver.bounded_empty limit .accumulating⟩

/-- A chunk is put behind the bytes held only when there are none of them left. -/
theorem Bounded.turn {limit : Nat} {inlet : Inlet} (bounded : inlet.Bounded limit) :
    inlet.turn.2.Bounded limit := by
  rcases inlet with ⟨receiver, pending, source⟩
  cases pending with
  | nil => exact ⟨source.length_read_le chunkSize, bounded.receiver⟩
  | cons byte rest =>
      exact ⟨Nat.le_of_succ_le bounded.pending_le, bounded.receiver.feed byte⟩

theorem Call.bounded {limit : Nat} {inlet later : Inlet} {moments : List Inlet}
    {result : Except FrameError Frame} (call : Call inlet moments result later)
    (bounded : inlet.Bounded limit) :
    (∀ moment ∈ moments, moment.Bounded limit) ∧ later.Bounded limit := by
  induction call with
  | last ended =>
      have behind := bounded.turn
      rw [ended] at behind
      exact ⟨List.forall_mem_singleton.mpr bounded, behind⟩
  | next went _ induction =>
      have behind := bounded.turn
      rw [went] at behind
      rcases induction behind with ⟨others, last⟩
      exact ⟨List.forall_mem_cons.mpr ⟨bounded, others⟩, last⟩

inductive Operation where
  | receive
  | reset
deriving DecidableEq, Repr

def perform (inlet : Inlet) : Operation → Inlet
  | .receive => inlet.receive.2
  | .reset => inlet.reset

def performAll (inlet : Inlet) : List Operation → Inlet
  | [] => inlet
  | operation :: rest => (inlet.perform operation).performAll rest

theorem Bounded.perform {limit : Nat} {inlet : Inlet} (bounded : inlet.Bounded limit)
    (operation : Operation) : (inlet.perform operation).Bounded limit := by
  cases operation with
  | receive =>
      rcases inlet.receive_call with ⟨moments, call⟩
      exact (call.bounded bounded).2
  | reset => exact ⟨Nat.zero_le 256, bounded.receiver.reset⟩

theorem Bounded.performAll {limit : Nat} {inlet : Inlet} (bounded : inlet.Bounded limit)
    (operations : List Operation) : (inlet.performAll operations).Bounded limit := by
  induction operations generalizing inlet with
  | nil => exact bounded
  | cons operation rest induction => exact induction (bounded.perform operation)

/-! ## What an inlet does without its source -/

/-- The action makes no use of the source: it would come to the same with any other, and
leaves it as it is. -/
def WithoutSource {α : Type} (action : Inlet → α × Inlet) (inlet : Inlet) : Prop :=
  ∀ source, action { inlet with source } =
    ((action inlet).1, { (action inlet).2 with source })

theorem withoutSource_turn_iff (inlet : Inlet) :
    inlet.WithoutSource turn ↔ inlet.pending ≠ [] := by
  rcases inlet with ⟨receiver, pending, source⟩
  cases pending with
  | cons byte rest => exact ⟨fun _ => List.cons_ne_nil byte rest, fun _ _ => rfl⟩
  | nil =>
      constructor
      · -- A source that has ended ends the call, and one that brings a byte does not.
        intro without _
        have ended := congrArg Prod.fst (without { script := [] })
        have going := congrArg Prod.fst (without { script := [.data [0]] })
        cases ended.trans going.symm
      · intro nonempty
        exact absurd rfl nonempty

theorem exists_receive_of_frames_ne_nil {receiver : Receiver} {pending : Bytes}
    (coming : receiver.frames pending ≠ []) :
    ∃ result later left, ∀ source,
      receive ⟨receiver, pending, source⟩ = (result, ⟨later, left, source⟩) := by
  induction pending generalizing receiver with
  | nil => exact absurd rfl coming
  | cons byte rest induction =>
      cases fed : receiver.feed byte with
      | mk outcome next =>
          have turned (source : Source) : turn ⟨receiver, byte :: rest, source⟩ =
              (outcome.map Receiver.frameOf, ⟨next, rest, source⟩) := by
            simp only [turn, fed]
          cases outcome with
          | some outcome =>
              refine ⟨Receiver.frameOf outcome, next, rest, fun source => ?_⟩
              exact (Call.last (turned source)).receive_eq
          | none =>
              rw [Receiver.frames_cons, fed] at coming
              rcases induction coming with ⟨result, later, left, received⟩
              refine ⟨result, later, left, fun source => ?_⟩
              rcases receive_call ⟨next, rest, source⟩ with ⟨moments, call⟩
              rw [received source] at call
              exact (Call.next (turned source) call).receive_eq

theorem withoutSource_receive_iff (inlet : Inlet) :
    inlet.WithoutSource receive ↔ inlet.receiver.frames inlet.pending ≠ [] := by
  constructor
  · -- Of two sources with nothing in them, one closed and one silent, the call would tell
    -- which it is.
    intro without nothing
    have exhausted (afterwards : Afterwards) :
        (receive { inlet with source := { script := [], afterwards } }).1 =
          .error (Source.lastError afterwards) := by
      rw [(receive_forecast _).1]
      simp [forecast, nothing, Receiver.answers]
    have closed := congrArg Prod.fst (without { script := [], afterwards := .closed })
    have silent := congrArg Prod.fst (without { script := [], afterwards := .silent })
    rw [exhausted] at closed silent
    cases closed.trans silent.symm
  · intro coming source
    rcases exists_receive_of_frames_ne_nil coming with ⟨result, later, left, received⟩
    rw [received source]
    have here : inlet.receive = (result, ⟨later, left, inlet.source⟩) :=
      received inlet.source
    rw [here]

theorem Call.pending_ne_nil_iff {inlet later : Inlet} {moments : List Inlet}
    {result : Except FrameError Frame} (call : Call inlet moments result later) :
    (∀ moment ∈ moments, moment.pending ≠ []) ↔
    inlet.receiver.frames inlet.pending ≠ [] := by
  induction call with
  | @last inlet later result ended =>
      rw [List.forall_mem_singleton]
      rcases inlet with ⟨receiver, pending, source⟩
      cases pending with
      | nil => simp
      | cons byte rest =>
          have brought : (receiver.feed byte).1.map Receiver.frameOf = some result :=
            congrArg Prod.fst ended
          rcases Option.map_eq_some_iff.mp brought with ⟨outcome, fed, _⟩
          simp [Receiver.frames_cons, fed]
  | @next inlet following later moments result went _ induction =>
      rw [List.forall_mem_cons, induction]
      rcases inlet with ⟨receiver, pending, source⟩
      cases pending with
      | nil => simp
      | cons byte rest =>
          have silent : (receiver.feed byte).1 = none :=
            Option.map_eq_none_iff.mp (congrArg Prod.fst went)
          have behind : ⟨(receiver.feed byte).2, rest, source⟩ = following :=
            congrArg Prod.snd went
          rw [← behind, Receiver.frames_cons, silent]
          simp

/-- However calls and resets have followed each other, an inlet holds at most 256 bytes
that are not yet fed, and its receiver no more than the limit, without a boundary among
them and none while it discards. So it is before each turn of the next call as well. A
turn uses the source only if no byte is held, and the call as a whole only if the bytes
held bring about nothing. -/
theorem receive_on_demand (limit : Nat) (source : Source) (operations : List Operation) :
    let inlet := (start limit source).performAll operations
    inlet.Bounded limit ∧
      (∃ moments, Call inlet moments inlet.receive.1 inlet.receive.2 ∧
        (∀ moment ∈ moments, moment.Bounded limit ∧
          (moment.WithoutSource turn ↔ moment.pending ≠ [])) ∧
        ((∀ moment ∈ moments, moment.pending ≠ []) ↔
          inlet.receiver.frames inlet.pending ≠ [])) ∧
      (inlet.WithoutSource receive ↔ inlet.receiver.frames inlet.pending ≠ []) := by
  intro inlet
  have bounded : inlet.Bounded limit := (bounded_start limit source).performAll operations
  rcases inlet.receive_call with ⟨moments, call⟩
  refine ⟨bounded, ⟨moments, call, ?_, call.pending_ne_nil_iff⟩,
    inlet.withoutSource_receive_iff⟩
  intro moment member
  exact ⟨(call.bounded bounded).1 moment member, moment.withoutSource_turn_iff⟩

/-- A chunk with an oversize segment, a frame and a byte. The first call stops inside the
segment, the second finds the frame in what is held, and the third would have to read. -/
theorem receive_on_demand_behind_oversize :
    let chunk : Bytes := [1, 2, 3, 4, 5, 0xC0, 0x40, 0x48, 0xC4, 0xC0, 7]
    let inlet := start 3 (.ofBytes chunk)
    let second := inlet.performAll [.receive]
    let third := inlet.performAll [.receive, .receive]
    second = ⟨⟨3, [], .discarding⟩, chunk.drop 4, { script := [] }⟩ ∧
      third = ⟨.start 3, [7], { script := [] }⟩ ∧
      second.receiver.buffer = [] ∧ second.WithoutSource turn ∧
        second.WithoutSource receive ∧
      ¬third.WithoutSource receive := by
  intro chunk inlet second third
  have stopped : second = ⟨⟨3, [], .discarding⟩, chunk.drop 4, { script := [] }⟩ := by
    decide +kernel
  have behind : third = ⟨.start 3, [7], { script := [] }⟩ := by decide +kernel
  rcases receive_on_demand 3 (.ofBytes chunk) [.receive] with
    ⟨bounded, ⟨moments, call, each, _⟩, demand⟩
  have first : second ∈ moments := by
    cases call with
    | last => exact List.mem_singleton_self _
    | next => exact List.mem_cons_self
  refine ⟨stopped, behind, ?_, (each second first).2.mpr ?_, demand.mpr ?_, ?_⟩
  · apply bounded.receiver.empty
    decide +kernel
  · rw [stopped]
    decide
  · decide +kernel
  · intro without
    apply (receive_on_demand 3 (.ofBytes chunk) [.receive, .receive]).2.2.mp without
    decide +kernel

end Inlet

end PanelLink
