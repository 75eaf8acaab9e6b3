import PanelLink.Program

/-!
Opening a port makes up to three calls that can fail on it. The complaint has the same
words whichever of them fails. Its exit code depends on the call: clearing and duplicating
are calls on the port, sorted by the kind of the fault, while the time limit is set for
the frames to be read, and there the kind is lost.
-/

namespace PanelLink

inductive OpeningCall where
  | clear
  | duplicate
  | setTimeout
deriving DecidableEq, Repr

namespace OpeningCall

def error (fault : SerialFault) : OpeningCall → LinkError
  | clear | duplicate => .port (.configuring fault)
  | setTimeout => .frame (.transfer ⟨.other, (PortError.configuring fault).message⟩)

end OpeningCall

/-- The call that fails, and its fault. Those before it have not failed, and no time limit
is set unless one is given. -/
inductive PortFaults.FailsAt (readTimeout : Option Duration) (faults : PortFaults) :
    OpeningCall → SerialFault → Prop where
  | clear {fault : SerialFault} (fails : faults.clear = some fault) :
      FailsAt readTimeout faults .clear fault
  | duplicate {fault : SerialFault} (cleared : faults.clear = none)
      (fails : faults.duplicate = some fault) :
      FailsAt readTimeout faults .duplicate fault
  | setTimeout {fault : SerialFault} (cleared : faults.clear = none)
      (duplicated : faults.duplicate = none) (given : readTimeout.isSome = true)
      (fails : faults.setTimeout = some fault) :
      FailsAt readTimeout faults .setTimeout fault

namespace Complaint

theorem code_portStatus_configuring (fault : SerialFault) :
    (portStatus (.configuring fault)).code =
      if fault.kind = .transfer .permissionDenied then 50 else 3 := by
  rcases fault with ⟨kind, text⟩
  cases kind with
  | transfer cause => cases cause <;> rfl
  | _ => rfl

theorem message_ofLinkError_error (context : String) (call : OpeningCall)
    (fault : SerialFault) :
    (ofLinkError context (call.error fault)).message =
      (ofPortError context (.configuring fault)).message := by
  cases call <;> rfl

theorem code_ofLinkError_error (context : String) (call : OpeningCall)
    (fault : SerialFault) :
    (ofLinkError context (call.error fault)).status.code =
      if call = .setTimeout then 125
      else (ofPortError context (.configuring fault)).status.code := by
  cases call <;> rfl

end Complaint

namespace Link

theorem openPort_of_failsAt {readTimeout : Option Duration} {port : Port}
    {call : OpeningCall} {fault : SerialFault} (settings : PortSettings) (limit : Nat)
    (arrivals : Source) (failing : port.faults.FailsAt readTimeout call fault) :
    openPort settings limit readTimeout (.present port arrivals) =
      .error (call.error fault) := by
  rcases port with ⟨name, timeout, source, sink, ⟨setTimeout, duplicate, clear⟩⟩
  cases failing with
  | clear fails =>
      cases fails
      rfl
  | duplicate cleared fails =>
      cases cleared
      cases fails
      rfl
  | setTimeout cleared duplicated given fails =>
      cases cleared
      cases duplicated
      cases fails
      cases readTimeout with
      | none => cases given
      | some limit => rfl

theorem failsAt_or_opens (settings : PortSettings) (limit : Nat)
    (readTimeout : Option Duration) (port : Port) (arrivals : Source) :
    (∃ call fault, port.faults.FailsAt readTimeout call fault) ∨
      ∃ link,
        openPort settings limit readTimeout (.present port arrivals) = .ok link := by
  rcases port with ⟨name, timeout, source, sink, ⟨setTimeout, duplicate, clear⟩⟩
  cases clear with
  | some fault => exact .inl ⟨.clear, fault, .clear rfl⟩
  | none =>
      cases duplicate with
      | some fault => exact .inl ⟨.duplicate, fault, .duplicate rfl rfl⟩
      | none =>
          cases readTimeout with
          | none => exact .inr ⟨_, rfl⟩
          | some limit =>
              cases setTimeout with
              | some fault => exact .inl ⟨.setTimeout, fault, .setTimeout rfl rfl rfl rfl⟩
              | none => exact .inr ⟨_, rfl⟩

/-- Opening a port that is there fails if and only if one of the calls on it does. The
complaint has the words for a port that cannot be configured, whichever call it was. It
has the exit code for that, 50 where permission was denied and else 3, only if the port
was cleared or duplicated. A time limit that cannot be set comes to 125, whatever the
fault. -/
theorem openPort_fails_by_call (settings : PortSettings) (limit : Nat)
    (readTimeout : Option Duration) (port : Port) (arrivals : Source) :
    let opened := openPort settings limit readTimeout (.present port arrivals)
    (opened.isOk = false ↔ ∃ call fault, port.faults.FailsAt readTimeout call fault) ∧
      ∀ call fault, port.faults.FailsAt readTimeout call fault →
        ∃ error, opened = .error error ∧ ∀ context,
          let complaint := Complaint.ofLinkError context error
          let direct := Complaint.ofPortError context (.configuring fault)
          complaint.message = direct.message ∧
            complaint.status.code =
              (if call = .setTimeout then 125 else direct.status.code) ∧
            direct.status.code =
              if fault.kind = .transfer .permissionDenied then 50 else 3 := by
  intro opened
  constructor
  · constructor
    · intro failed
      rcases failsAt_or_opens settings limit readTimeout port arrivals with
        failing | ⟨link, opens⟩
      · exact failing
      · have succeeded : opened = .ok link := opens
        rw [succeeded] at failed
        cases failed
    · intro failing
      rcases failing with ⟨call, fault, failing⟩
      have failed : opened = .error (call.error fault) :=
        openPort_of_failsAt settings limit arrivals failing
      rw [failed]
      rfl
  · intro call fault failing
    refine ⟨call.error fault, openPort_of_failsAt settings limit arrivals failing, ?_⟩
    intro context
    exact ⟨Complaint.message_ofLinkError_error context call fault,
      Complaint.code_ofLinkError_error context call fault,
      Complaint.code_portStatus_configuring fault⟩

theorem openPort_fails_by_call_denied :
    let denied : SerialFault := ⟨.transfer .permissionDenied, "Permission denied"⟩
    let closed : Port :=
      { faults := { duplicate := some denied, setTimeout := some denied } }
    let untimed : Port := { faults := { setTimeout := some denied } }
    let opening (port : Port) (readTimeout : Option Duration) :=
      openPort {} 512 readTimeout (.present port { script := [] })
    closed.faults.FailsAt (some ⟨5⟩) .duplicate denied ∧
      untimed.faults.FailsAt (some ⟨5⟩) .setTimeout denied ∧
      (∃ error, opening closed (some ⟨5⟩) = .error error ∧
        (Complaint.ofLinkError "open failed" error).status.code = 50) ∧
      (∃ error, opening untimed (some ⟨5⟩) = .error error ∧
        (Complaint.ofLinkError "open failed" error).status.code = 125) ∧
      (opening untimed none).isOk = true := by
  intro denied closed untimed opening
  have duplicating : closed.faults.FailsAt (some ⟨5⟩) .duplicate denied :=
    .duplicate rfl rfl
  have timing : untimed.faults.FailsAt (some ⟨5⟩) .setTimeout denied :=
    .setTimeout rfl rfl rfl rfl
  refine ⟨duplicating, timing, ?_, ?_, ?_⟩
  · rcases (openPort_fails_by_call {} 512 (some ⟨5⟩) closed { script := [] }).2
      _ _ duplicating with
      ⟨error, failed, complaint⟩
    rcases complaint "open failed" with ⟨_, code, direct⟩
    exact ⟨error, failed, code.trans direct⟩
  · rcases (openPort_fails_by_call {} 512 (some ⟨5⟩) untimed { script := [] }).2
      _ _ timing with
      ⟨error, failed, complaint⟩
    exact ⟨error, failed, (complaint "open failed").2.1⟩
  · rw [← Bool.not_eq_false,
      (openPort_fails_by_call {} 512 none untimed { script := [] }).1]
    intro failing
    rcases failing with ⟨call, fault, failing⟩
    cases failing with
    | clear fails => cases fails
    | duplicate _ fails => cases fails
    | setTimeout _ _ given _ => cases given

end Link

/-- One fault at each of the calls in turn: the program says the same, and ends with
another code at the last. -/
theorem Program.exitCode_of_untimed_port :
    let denied : SerialFault := ⟨.transfer .permissionDenied, "Permission denied"⟩
    let gone : SerialFault := ⟨.noDevice, "No such device"⟩
    let ending (faults : PortFaults) :=
      let execution := execute {} ["send", "refresh"]
        { attachment := fun _ => .present { faults } { script := [] } }
      (execution.exitCode, execution.errorOutput)
    let words := "error: open failed: failed to configure serial port: "
    ending { clear := some denied } = (some 50, words ++ "Permission denied\n") ∧
      ending { duplicate := some denied } = (some 50, words ++ "Permission denied\n") ∧
      ending { setTimeout := some denied } = (some 125, words ++ "Permission denied\n") ∧
      ending { clear := some gone } = (some 3, words ++ "No such device\n") ∧
      ending { duplicate := some gone } = (some 3, words ++ "No such device\n") ∧
      ending { setTimeout := some gone } = (some 125, words ++ "No such device\n") := by
  decide +kernel

end PanelLink
