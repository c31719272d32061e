import SqlBench.Text.Quoted

set_option autoImplicit false

namespace SqlBench.Text

def continued? (b : UInt8) : Option Nat :=
  if b.toNat / 64 = 2 then some (b.toNat % 64) else none

-- A character from its number, if the number takes as many octets as it was written with.
def charBetween? (low high n : Nat) : Option Char :=
  if low ≤ n ∧ n < high ∧ ¬(0xD800 ≤ n ∧ n < 0xE000) then some (Char.ofNat n) else none

def decodeChar? : List UInt8 → Option (Char × List UInt8)
  | [] => none
  | a :: rest =>
    if a.toNat < 0x80 then some (Char.ofNat a.toNat, rest)
    else if a.toNat < 0xC0 then none
    else if a.toNat < 0xE0 then
      match rest with
      | b :: rest => do
        let b ← continued? b
        let c ← charBetween? 0x80 0x800 (a.toNat % 32 * 64 + b)
        pure (c, rest)
      | _ => none
    else if a.toNat < 0xF0 then
      match rest with
      | b :: c :: rest => do
        let b ← continued? b
        let c ← continued? c
        let x ← charBetween? 0x800 0x10000 (a.toNat % 16 * 4096 + b * 64 + c)
        pure (x, rest)
      | _ => none
    else if a.toNat < 0xF8 then
      match rest with
      | b :: c :: d :: rest => do
        let b ← continued? b
        let c ← continued? c
        let d ← continued? d
        let x ← charBetween? 0x10000 0x110000 (a.toNat % 8 * 262144 + b * 4096 + c * 64 + d)
        pure (x, rest)
      | _ => none
    else none

def decodeFrom : Nat → List UInt8 → Option (List Char)
  | _, [] => some []
  | 0, _ => none
  | fuel + 1, octets => do
    let (c, rest) ← decodeChar? octets
    let cs ← decodeFrom fuel rest
    pure (c :: cs)

def decode? (octets : List UInt8) : Option String :=
  (decodeFrom octets.length octets).map String.ofList

def octetDigits (b : UInt8) : List Char :=
  let upper (n : Nat) : Char := if n < 10 then Char.ofNat (48 + n) else Char.ofNat (55 + n)
  [upper (b.toNat / 16), upper (b.toNat % 16)]

def shownFrom : Nat → List UInt8 → List Char
  | 0, _ => []
  | _ + 1, [] => []
  | fuel + 1, b :: rest =>
    match decodeChar? (b :: rest) with
    | some ('\'', rest) => ['\\', '\''] ++ shownFrom fuel rest
    | some (c, rest) => escapeChar c ++ shownFrom fuel rest
    | none => ['\\', 'x'] ++ octetDigits b ++ shownFrom fuel rest

def quotedOctets (octets : List UInt8) : String :=
  String.ofList ('"' :: shownFrom octets.length octets ++ ['"'])

end SqlBench.Text
