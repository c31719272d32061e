import SqlBench.Decimal.Reading
import SqlBench.Failure
import SqlBench.Text.Blank

set_option autoImplicit false

namespace SqlBench

-- A multiple of a unit: `digits / 10 ^ places` times as much.
structure Factor where
  digits : Nat
  places : Nat
  deriving DecidableEq, Repr

def Factor.value (f : Factor) : Float :=
  Float.ofScientific f.digits true f.places

structure Quantity where
  number : Decimal.Signed
  factor : Factor

namespace Quantity

def value (q : Quantity) : Float :=
  q.number.value * q.factor.value

def factor? (unit : MeasureUnit) (suffix : String) : Option Factor :=
  if suffix.isEmpty then some ⟨1, 0⟩
  else
    match unit, suffix with
    | .milliseconds, "ns" => some ⟨1, 6⟩
    | .milliseconds, "us" => some ⟨1, 3⟩
    | .milliseconds, "ms" => some ⟨1, 0⟩
    | .milliseconds, "s" => some ⟨1000, 0⟩
    | .milliseconds, "m" => some ⟨60000, 0⟩
    | .milliseconds, "h" => some ⟨3600000, 0⟩
    | .milliseconds, "d" => some ⟨86400000, 0⟩
    | .bytes, "B" => some ⟨1, 0⟩
    | .bytes, "kB" => some ⟨1024, 0⟩
    | .bytes, "MB" => some ⟨1048576, 0⟩
    | .bytes, "GB" => some ⟨1073741824, 0⟩
    | .bytes, "TB" => some ⟨1099511627776, 0⟩
    | .bytes, "PB" => some ⟨1125899906842624, 0⟩
    | _, _ => none

def isNumberChar (c : Char) : Bool :=
  c.isDigit || c == '.' || c == '-'

def recognise (text : String) (unit : MeasureUnit) : Except Failure Quantity :=
  let chars := Text.trim text.toList
  let shown := String.ofList chars
  match Decimal.readSigned (chars.takeWhile isNumberChar) with
  | none => .error (.permanent (.unreadableQuantity shown))
  | some number =>
    let suffix := String.ofList (Text.trim (chars.dropWhile isNumberChar))
    match factor? unit suffix with
    | some factor => .ok ⟨number, factor⟩
    | none => .error (.permanent (.foreignSuffix suffix shown unit))

def parse (text : String) (unit : MeasureUnit) : Except Failure Float :=
  (recognise text unit).map value

end Quantity

end SqlBench
