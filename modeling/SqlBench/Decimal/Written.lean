import SqlBench.Decimal.Shortest

set_option autoImplicit false

namespace SqlBench.Decimal

-- The decisions of a number format. A number `0.d₁d₂… · 10 ^ point` is written with a decimal point
-- if `pointFrom ≤ point ≤ pointTo`, and with an exponent otherwise.
structure Layout where
  pointFrom : Int
  pointTo : Int
  keepsPoint : Bool
  exponentSign : String
  nan : String
  infinity : String

def plain : Layout :=
  ⟨-1000, 1000, false, "", "NaN", "inf"⟩

def pointed : Layout :=
  ⟨-1000, 1000, true, "", "NaN", "inf"⟩

-- A point from `0.00001` to below `10 ^ 16`, an exponent outside, and a whole number ends in `.0`.
def scaledForm : Layout :=
  ⟨-4, 16, true, "", "NaN", "inf"⟩

def document : Layout :=
  { scaledForm with exponentSign := "+" }

def yaml : Layout :=
  { scaledForm with nan := ".nan", infinity := ".inf" }

def withPoint (digits : List Char) (places : Nat) : List Char :=
  let padded := List.replicate (places + 1 - digits.length) '0' ++ digits
  let whole := padded.length - places
  padded.take whole ++ '.' :: padded.drop whole

def Layout.writeDigits (l : Layout) (s : Scientific) : List Char :=
  let digits := digitsOf s.digits
  let point := Int.ofNat digits.length + s.exponent
  if l.pointFrom ≤ point ∧ point ≤ l.pointTo then
    match s.exponent with
    | .ofNat zeros =>
      digits ++ List.replicate zeros '0' ++ if l.keepsPoint then ['.', '0'] else []
    | .negSucc places => withPoint digits (places + 1)
  else
    let mantissa :=
      match digits with
      | [] => []
      | [d] => [d]
      | d :: more => d :: '.' :: more
    let sign := if 0 < point then l.exponentSign.toList else []
    mantissa ++ 'e' :: sign ++ (toString (point - 1)).toList

def Layout.write (l : Layout) (x : Float) : String :=
  match Binary.ofFloat x with
  | .nan => l.nan
  | .infinite negative => if negative then "-" ++ l.infinity else l.infinity
  | .finite negative mantissa exponent =>
    let body :=
      if mantissa = 0 then if l.keepsPoint then ['0', '.', '0'] else ['0']
      else l.writeDigits (shortest mantissa exponent)
    String.ofList (if negative then '-' :: body else body)

-- Writes a double with a fixed number of places, the exact value rounded to the nearest multiple, a
-- half to the even one.
def fixed (places : Nat) (x : Float) : String :=
  match Binary.ofFloat x with
  | .nan => "NaN"
  | .infinite negative => if negative then "-inf" else "inf"
  | .finite negative mantissa exponent =>
    let units := ((Fraction.ofBinary mantissa exponent).scale (Int.ofNat places)).round
    let digits := digitsOf units
    let body := if places = 0 then digits else withPoint digits places
    String.ofList (if negative then '-' :: body else body)

end SqlBench.Decimal
