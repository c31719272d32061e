import SqlBench.Clock
import SqlBench.Width

set_option autoImplicit false

namespace SqlBench

structure Instant where
  seconds : Int
  nanos : Nat
  fits : Width.fitsSigned 64 seconds = true
  isPart : nanos < 1000000000
  deriving DecidableEq, Repr

namespace Instant

def zero : Instant := ⟨0, 0, by decide, by decide⟩

def after? (i : Instant) (d : Span) : Option Instant :=
  let nanos := i.nanos + d % 1000000000
  let seconds := i.seconds + Int.ofNat (d / 1000000000 + nanos / 1000000000)
  if fits : Width.fitsSigned 64 seconds = true then
    some ⟨seconds, nanos % 1000000000, fits, Nat.mod_lt _ (by decide)⟩
  else none

-- Whether a clock that showed `start` at first goes on for a span behind a moment.
def allows (start : Instant) (now : Moment) (d : Span) : Bool :=
  ((start.after? now).bind fun i => i.after? d).isSome

def overflow : String := "overflow when adding duration to instant"

end Instant

end SqlBench
