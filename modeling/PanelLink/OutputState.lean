import PanelLink.Failure
import PanelLink.Text.Hex

/-! The state of the thirty-two outputs: four bytes, the one with output 31 first. -/

namespace PanelLink

structure OutputState where
  first : UInt8 := 0
  second : UInt8 := 0
  third : UInt8 := 0
  fourth : UInt8 := 0
deriving DecidableEq, Repr

namespace OutputState

def toBytes (state : OutputState) : Bytes :=
  [state.first, state.second, state.third, state.fourth]

def ofBytes? : Bytes → Option OutputState
  | first :: second :: third :: fourth :: _ => some ⟨first, second, third, fourth⟩
  | _ => none

def bits (state : OutputState) : UInt32 :=
  (state.first.toUInt32 <<< 24) ||| (state.second.toUInt32 <<< 16) |||
    (state.third.toUInt32 <<< 8) ||| state.fourth.toUInt32

def isOn (state : OutputState) (output : UInt8) : Bool :=
  output < 32 && state.bits &&& ((1 : UInt32) <<< output.toUInt32) ≠ 0

def on (state : OutputState) : List UInt8 :=
  ((List.range 32).map UInt8.ofNat).filter state.isOn

def text (state : OutputState) : String :=
  String.ofList (state.toBytes.flatMap fun byte => Text.hexDigits .upper 2 byte.toNat)

end OutputState

end PanelLink
