import SqlBench.Decimal.Reading
import SqlBench.Json.Basic
import SqlBench.Width

set_option autoImplicit false

namespace SqlBench.Json

def isGap (c : Char) : Bool :=
  c == ' ' || c == '\n' || c == '\t' || c == '\r'

def skipGap (s : List Char) : List Char :=
  s.dropWhile isGap

def hexValue? (c : Char) : Option Nat :=
  if '0' ≤ c ∧ c ≤ '9' then some (c.toNat - 48)
  else if 'a' ≤ c ∧ c ≤ 'f' then some (c.toNat - 87)
  else if 'A' ≤ c ∧ c ≤ 'F' then some (c.toNat - 55)
  else none

def readHex4 : List Char → Option (Nat × List Char)
  | a :: b :: c :: d :: rest => do
    let a ← hexValue? a
    let b ← hexValue? b
    let c ← hexValue? c
    let d ← hexValue? d
    pure (4096 * a + 256 * b + 16 * c + d, rest)
  | _ => none

-- Reads the rest of a string behind its opening quote. A character outside the basic plane may be
-- written as two escapes.
def readString : Nat → List Char → List Char → Option (String × List Char)
  | 0, _, _ => none
  | _ + 1, _, [] => none
  | _ + 1, done, '"' :: rest => some (String.ofList done.reverse, rest)
  | fuel + 1, done, '\\' :: c :: rest =>
    match c with
    | '"' => readString fuel ('"' :: done) rest
    | '\\' => readString fuel ('\\' :: done) rest
    | '/' => readString fuel ('/' :: done) rest
    | 'b' => readString fuel (Char.ofNat 8 :: done) rest
    | 'f' => readString fuel (Char.ofNat 12 :: done) rest
    | 'n' => readString fuel ('\n' :: done) rest
    | 'r' => readString fuel ('\r' :: done) rest
    | 't' => readString fuel ('\t' :: done) rest
    | 'u' => do
      let (unit, rest) ← readHex4 rest
      if 0xD800 ≤ unit ∧ unit < 0xDC00 then
        match rest with
        | '\\' :: 'u' :: more =>
          let (second, more) ← readHex4 more
          if 0xDC00 ≤ second ∧ second < 0xE000 then
            let n := 0x10000 + (unit - 0xD800) * 0x400 + (second - 0xDC00)
            readString fuel (Char.ofNat n :: done) more
          else none
        | _ => none
      else if 0xDC00 ≤ unit ∧ unit < 0xE000 then none
      else readString fuel (Char.ofNat unit :: done) rest
    | _ => none
  | fuel + 1, done, c :: rest =>
    if c.toNat < 32 ∨ c = '\\' then none else readString fuel (c :: done) rest

def readNumber (s : List Char) : Option (Json × List Char) := do
  let (negative, body) :=
    match s with
    | '-' :: rest => (true, rest)
    | rest => (false, rest)
  let (whole, rest) := Decimal.spanDigits body
  if whole.isEmpty || (whole.length > 1 && whole.head? == some '0') then none
  else
    let (fraction, rest, isReal) ←
      match rest with
      | '.' :: more =>
        let (digits, more) := Decimal.spanDigits more
        if digits.isEmpty then none else some (digits, more, true)
      | more => some ([], more, false)
    let (exponent, rest, isReal) ←
      match rest with
      | c :: more =>
        if c = 'e' ∨ c = 'E' then
          let (sign, more) :=
            match more with
            | '-' :: more => (-1, more)
            | '+' :: more => (1, more)
            | more => ((1 : Int), more)
          let (digits, more) := Decimal.spanDigits more
          if digits.isEmpty then none
          else some (sign * Int.ofNat (Decimal.natOf digits), more, true)
        else some (0, rest, isReal)
      | [] => some (0, rest, isReal)
    let n := Decimal.natOf whole
    if !isReal && (if negative then 0 < n && n ≤ Width.size 63 else n < Width.size 64) then
      some (.integer (if negative then -Int.ofNat n else Int.ofNat n), rest)
    else
      let numeral : Decimal.Numeral := ⟨whole ++ fraction, fraction.length, exponent⟩
      let x := numeral.value
      if x.isFinite then some (.real (if negative then -x else x), rest) else none

mutual

def readValue : Nat → Nat → List Char → Option (Json × List Char)
  | 0, _, _ => none
  | fuel + 1, depth, s =>
    match skipGap s with
    | 'n' :: 'u' :: 'l' :: 'l' :: rest => some (.null, rest)
    | 't' :: 'r' :: 'u' :: 'e' :: rest => some (.bool true, rest)
    | 'f' :: 'a' :: 'l' :: 's' :: 'e' :: rest => some (.bool false, rest)
    | '"' :: rest => (readString (rest.length + 1) [] rest).map fun p => (.string p.1, p.2)
    | '[' :: rest =>
      if depth ≤ 1 then none
      else
        match skipGap rest with
        | ']' :: more => some (.array [], more)
        | _ => readItems fuel (depth - 1) [] rest
    | '\x7b' :: rest =>
      if depth ≤ 1 then none
      else
        match skipGap rest with
        | '\x7d' :: more => some (.object [], more)
        | _ => readMembers fuel (depth - 1) [] rest
    | rest => readNumber rest

def readItems : Nat → Nat → List Json → List Char → Option (Json × List Char)
  | 0, _, _, _ => none
  | fuel + 1, depth, done, s => do
    let (item, rest) ← readValue fuel depth s
    match skipGap rest with
    | ',' :: more => readItems fuel depth (item :: done) more
    | ']' :: more => some (.array (item :: done).reverse, more)
    | _ => none

def readMembers : Nat → Nat → List (String × Json) → List Char → Option (Json × List Char)
  | 0, _, _, _ => none
  | fuel + 1, depth, done, s => do
    match skipGap s with
    | '"' :: rest =>
      let (name, rest) ← readString (rest.length + 1) [] rest
      match skipGap rest with
      | ':' :: more =>
        let (value, rest) ← readValue fuel depth more
        match skipGap rest with
        | ',' :: more => readMembers fuel depth ((name, value) :: done) more
        | '\x7d' :: more => some (Json.ofMembers ((name, value) :: done).reverse, more)
        | _ => none
      | _ => none
    | _ => none

end

def parse? (s : String) : Option Json :=
  let chars := s.toList
  match readValue (2 * chars.length + 2) 128 chars with
  | some (value, rest) => if (skipGap rest).isEmpty then some value else none
  | none => none

end SqlBench.Json
