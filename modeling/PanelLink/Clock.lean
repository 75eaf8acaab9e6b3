/-!
Durations and instants in nanoseconds. Instants are read off a clock that counts seconds
in signed sixty-four bits, so adding to one can leave its range.
-/

namespace PanelLink

structure Duration where
  nanos : Nat
deriving DecidableEq, Repr

namespace Duration

def ofSeconds (seconds : Nat) : Duration := ⟨1000000000 * seconds⟩

def ofMillis (millis : Nat) : Duration := ⟨1000000 * millis⟩

def seconds (duration : Duration) : Nat := duration.nanos / 1000000000

def restNanos (duration : Duration) : Nat := duration.nanos % 1000000000

end Duration

structure Instant where
  nanos : Int
deriving DecidableEq, Repr

namespace Instant

instance : LE Instant := ⟨fun earlier later => earlier.nanos ≤ later.nanos⟩

instance (earlier later : Instant) : Decidable (earlier ≤ later) :=
  inferInstanceAs (Decidable (earlier.nanos ≤ later.nanos))

/-- The whole seconds of an instant, counted downwards before the origin. -/
def seconds (instant : Instant) : Int := instant.nanos.fdiv 1000000000

def inRange (instant : Instant) : Bool :=
  Int64.minValue.toInt ≤ instant.seconds && instant.seconds ≤ Int64.maxValue.toInt

def after? (instant : Instant) (duration : Duration) : Option Instant :=
  let later : Instant := ⟨instant.nanos + duration.nanos⟩
  if later.inRange then some later else none

end Instant

end PanelLink
