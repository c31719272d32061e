import SqlBench.Text.Cut

set_option autoImplicit false

namespace SqlBench.Decimal

-- The parts of a written number: `digits · 10 ^ (exponent - places)`.
structure Numeral where
  digits : List Char
  places : Nat
  exponent : Int

def natOf (digits : List Char) : Nat :=
  digits.foldl (fun n c => 10 * n + (c.toNat - 48)) 0

-- A natural number as a double, times a power of ten, correctly rounded. Far outside the range the
-- answer does not depend on the digits.
def scaled (n : Nat) (exponent : Int) : Float :=
  if n = 0 then 0.0
  else
    let size := Int.ofNat (Nat.toDigits 10 n).length + exponent
    if 400 < size then 1.0 / 0.0
    else if size < -400 then 0.0
    else
      match exponent with
      | .ofNat e => Float.ofScientific n false e
      | .negSucc e => Float.ofScientific n true (e + 1)

def spanDigits (s : List Char) : List Char × List Char :=
  (s.takeWhile Char.isDigit, s.dropWhile Char.isDigit)

def readExponent : List Char → Option Int
  | [] => some 0
  | c :: rest =>
    if c = 'e' ∨ c = 'E' then
      let (negative, body) :=
        match rest with
        | '-' :: more => (true, more)
        | '+' :: more => (false, more)
        | more => (false, more)
      if body.isEmpty || !body.all Char.isDigit then none
      else
        let n := Int.ofNat (natOf body)
        some (if negative then -n else n)
    else none

def spanFraction : List Char → List Char × List Char
  | '.' :: more => spanDigits more
  | more => ([], more)

def readNumeral (s : List Char) : Option Numeral :=
  let (whole, rest) := spanDigits s
  let (fraction, rest) := spanFraction rest
  if whole.isEmpty && fraction.isEmpty then none
  else (readExponent rest).map fun e => ⟨whole ++ fraction, fraction.length, e⟩

def Numeral.value (n : Numeral) : Float :=
  scaled (natOf n.digits) (n.exponent - Int.ofNat n.places)

inductive Magnitude where
  | finite (n : Numeral)
  | infinite
  | nan

def Magnitude.value : Magnitude → Float
  | .finite n => n.value
  | .infinite => 1.0 / 0.0
  | .nan => 0.0 / 0.0

structure Signed where
  isNegative : Bool
  magnitude : Magnitude

def Signed.value (s : Signed) : Float :=
  if s.isNegative then -s.magnitude.value else s.magnitude.value

def readUnsigned (s : List Char) : Option Magnitude :=
  match (String.ofList (s.map Char.toLower)) with
  | "inf" => some .infinite
  | "infinity" => some .infinite
  | "nan" => some .nan
  | _ => (readNumeral s).map .finite

def readSigned (s : List Char) : Option Signed :=
  match s with
  | '-' :: rest => (readUnsigned rest).map (⟨true, ·⟩)
  | '+' :: rest => (readUnsigned rest).map (⟨false, ·⟩)
  | s => (readUnsigned s).map (⟨false, ·⟩)

def read (s : List Char) : Option Float :=
  (readSigned s).map Signed.value

end SqlBench.Decimal
