import SqlBench.Decimal.Binary

set_option autoImplicit false

namespace SqlBench.Decimal

structure Scientific where
  digits : Nat
  exponent : Int
  deriving DecidableEq, Repr

structure Interval where
  low : Nat
  value : Nat
  high : Nat
  den : Nat
  closed : Bool

-- The interval of `mantissa · 2 ^ exponent`. Below a power of two doubles stand half as far apart,
-- except at the bottom of the range.
def Interval.ofBinary (mantissa : Nat) (exponent : Int) : Interval :=
  let below := if mantissa = Nat.pow 2 52 ∧ exponent ≠ -1074 then 1 else 2
  let unit := Fraction.ofBinary 1 (exponent - 2)
  ⟨(4 * mantissa - below) * unit.num, 4 * mantissa * unit.num, (4 * mantissa + 2) * unit.num,
    unit.den, mantissa % 2 = 0⟩

def Interval.contains (i : Interval) (x : Fraction) : Bool :=
  let at_ := x.num * i.den
  let low := i.low * x.den
  let high := i.high * x.den
  if i.closed then low ≤ at_ && at_ ≤ high else low < at_ && at_ < high

-- The better of the value's two neighbours on the grid of multiples of `10 ^ exponent`, if one lies
-- in the interval.
def Interval.onGrid (i : Interval) (exponent : Int) : Option Scientific :=
  let scaled := Fraction.scale ⟨i.value, i.den⟩ (-exponent)
  let low := scaled.num / scaled.den
  let rest := scaled.num % scaled.den
  let hit (n : Nat) : Bool := 0 < n && i.contains (Fraction.scale ⟨n, 1⟩ exponent)
  let lowWins := 2 * rest < scaled.den || (2 * rest == scaled.den && low % 2 == 0)
  match hit low, hit (low + 1) with
  | true, true => some ⟨if lowWins then low else low + 1, exponent⟩
  | true, false => some ⟨low, exponent⟩
  | false, true => some ⟨low + 1, exponent⟩
  | false, false => none

-- The least `k` with `value < 10 ^ k`, tried from an estimate that is never too large.
def magnitudeFrom (x : Fraction) : Nat → Int → Int
  | 0, k => k
  | steps + 1, k =>
    let bound := Fraction.scale ⟨1, 1⟩ k
    if x.num * bound.den < bound.num * x.den then k else magnitudeFrom x steps (k + 1)

def magnitude (x : Fraction) : Int :=
  let estimate := Int.ofNat (digitsOf x.num).length - Int.ofNat (digitsOf x.den).length - 1
  magnitudeFrom x 4 estimate

def Interval.firstHit (i : Interval) (top : Int) : Nat → Nat → Scientific
  | 0, _ => ⟨0, 0⟩
  | steps + 1, count =>
    match i.onGrid (top - Int.ofNat count) with
    | some s => s
    | none => i.firstHit top steps (count + 1)

def Scientific.strip (digits : Nat) (exponent : Int) : Scientific :=
  if _more : 0 < digits ∧ digits % 10 = 0 then strip (digits / 10) (exponent + 1)
  else ⟨digits, exponent⟩
termination_by digits
decreasing_by omega

def shortest (mantissa : Nat) (exponent : Int) : Scientific :=
  if mantissa = 0 then ⟨0, 0⟩
  else
    let i := Interval.ofBinary mantissa exponent
    let s := i.firstHit (magnitude ⟨i.value, i.den⟩) 18 1
    Scientific.strip s.digits s.exponent

end SqlBench.Decimal
