set_option autoImplicit false

namespace SqlBench.Decimal

inductive Binary where
  | nan
  | infinite (negative : Bool)
  | finite (negative : Bool) (mantissa : Nat) (exponent : Int)
  deriving DecidableEq, Repr

namespace Binary

-- Takes a double's bits apart: one for the sign, eleven for the exponent and fifty-two for the
-- fraction, which has a leading one unless the exponent field is zero.
def ofBits (bits : UInt64) : Binary :=
  let negative := bits >>> 63 == 1
  let field := ((bits >>> 52) &&& 0x7FF).toNat
  let fraction := (bits &&& 0xFFFFFFFFFFFFF).toNat
  if field = 0x7FF then if fraction = 0 then .infinite negative else .nan
  else if field = 0 then .finite negative fraction (-1074)
  else .finite negative (fraction + Nat.pow 2 52) (Int.ofNat field - 1075)

def ofFloat (x : Float) : Binary :=
  ofBits x.toBits

end Binary

structure Fraction where
  num : Nat
  den : Nat
  deriving DecidableEq, Repr

def Fraction.ofBinary (mantissa : Nat) (exponent : Int) : Fraction :=
  match exponent with
  | .ofNat e => ⟨mantissa * Nat.pow 2 e, 1⟩
  | .negSucc e => ⟨mantissa, Nat.pow 2 (e + 1)⟩

def Fraction.scale (x : Fraction) (exponent : Int) : Fraction :=
  match exponent with
  | .ofNat e => ⟨x.num * Nat.pow 10 e, x.den⟩
  | .negSucc e => ⟨x.num, x.den * Nat.pow 10 (e + 1)⟩

def Fraction.round (x : Fraction) : Nat :=
  let low := x.num / x.den
  let rest := x.num % x.den
  if 2 * rest < x.den then low
  else if x.den < 2 * rest then low + 1
  else if low % 2 = 0 then low else low + 1

def digitsOf (n : Nat) : List Char :=
  Nat.toDigits 10 n

end SqlBench.Decimal
