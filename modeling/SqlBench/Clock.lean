set_option autoImplicit false

namespace SqlBench

abbrev Moment := Nat

abbrev Span := Nat

def millis (n : Nat) : Span := n * 1000000

def Moment.spanTo (start finish : Moment) : Span := finish - start

-- Whole seconds and their fraction first, and the sum of both times a thousand.
def Span.toMillis (d : Span) : Float :=
  (Float.ofNat (d / 1000000000) + Float.ofNat (d % 1000000000) / 1e9) * 1000.0

-- A second of universal time, counted from 1970, and nanoseconds behind it. A leap second is the
-- second before it with a thousand million nanoseconds more.
structure Timestamp where
  seconds : Int
  nanos : Nat
  deriving DecidableEq, Repr, Inhabited

namespace Timestamp

def newYear2025 : Timestamp := ⟨1735689600, 0⟩

def atMoment (t : Moment) : Timestamp :=
  ⟨newYear2025.seconds + Int.ofNat (t / 1000000000), t % 1000000000⟩

-- Year, month and day of a day counted from the start of 1970. Years are taken to start in March,
-- so the leap day ends its year.
def civil (day : Int) : Int × Nat × Nat :=
  let shifted := day + 719468
  let era := shifted.fdiv 146097
  let dayOfEra := (shifted - era * 146097).toNat
  let yearOfEra := (dayOfEra - dayOfEra / 1460 + dayOfEra / 36524 - dayOfEra / 146096) / 365
  let dayOfYear := dayOfEra - (365 * yearOfEra + yearOfEra / 4 - yearOfEra / 100)
  let part := (5 * dayOfYear + 2) / 153
  let month := if part < 10 then part + 3 else part - 9
  let year := Int.ofNat yearOfEra + era * 400 + if month ≤ 2 then 1 else 0
  (year, month, dayOfYear - (153 * part + 2) / 5 + 1)

def dayOf (year : Int) (month day : Nat) : Int :=
  let y := if month ≤ 2 then year - 1 else year
  let era := y.fdiv 400
  let yearOfEra := (y - era * 400).toNat
  let dayOfYear := (153 * (if month > 2 then month - 3 else month + 9) + 2) / 5 + day - 1
  let dayOfEra := yearOfEra * 365 + yearOfEra / 4 - yearOfEra / 100 + dayOfYear
  era * 146097 + Int.ofNat dayOfEra - 719468

def padded (width n : Nat) : String :=
  let digits := toString n
  String.ofList (List.replicate (width - digits.length) '0') ++ digits

def yearText (year : Int) : String :=
  if 0 ≤ year ∧ year ≤ 9999 then padded 4 year.toNat
  else (if year < 0 then "-" else "+") ++ padded 4 year.natAbs

def parts (t : Timestamp) : Int × Nat × Nat × Nat × Nat × Nat :=
  let day := t.seconds.fdiv 86400
  let inDay := (t.seconds - day * 86400).toNat
  let (year, month, dayOfMonth) := civil day
  (year, month, dayOfMonth, inDay / 3600, inDay % 3600 / 60,
    inDay % 60 + t.nanos / 1000000000)

def fractionText (nanos : Nat) : String :=
  if nanos = 0 then ""
  else if nanos % 1000000 = 0 then "." ++ padded 3 (nanos / 1000000)
  else if nanos % 1000 = 0 then "." ++ padded 6 (nanos / 1000)
  else "." ++ padded 9 nanos

def text (t : Timestamp) : String :=
  let (year, month, day, hour, minute, second) := t.parts
  yearText year ++ "-" ++ padded 2 month ++ "-" ++ padded 2 day ++ "T" ++ padded 2 hour ++ ":" ++
    padded 2 minute ++ ":" ++ padded 2 second ++ fractionText (t.nanos % 1000000000) ++ "Z"

def name (t : Timestamp) : String :=
  let (year, month, day, hour, minute, second) := t.parts
  yearText year ++ "-" ++ padded 2 month ++ "-" ++ padded 2 day ++ "-" ++ padded 2 hour ++ ":" ++
    padded 2 minute ++ ":" ++ padded 2 second

def readDigits : Nat → Nat → List Char → Option (Nat × List Char)
  | 0, n, rest => some (n, rest)
  | count + 1, n, c :: rest =>
    if c.isDigit then readDigits count (10 * n + (c.toNat - 48)) rest else none
  | _ + 1, _, [] => none

def skipChar (c : Char) : List Char → Option (List Char)
  | d :: rest => if c = d then some rest else none
  | [] => none

def readZone : List Char → Option Int
  | ['Z'] => some 0
  | ['z'] => some 0
  | sign :: rest => do
    let (hours, rest) ← readDigits 2 0 rest
    let rest ← skipChar ':' rest
    let (minutes, rest) ← readDigits 2 0 rest
    if !rest.isEmpty then none
    else
      let offset := Int.ofNat (3600 * hours + 60 * minutes)
      if sign = '+' then some offset else if sign = '-' then some (-offset) else none
  | [] => none

def parse? (s : String) : Option Timestamp := do
  let (year, rest) ← readDigits 4 0 s.toList
  let rest ← skipChar '-' rest
  let (month, rest) ← readDigits 2 0 rest
  let rest ← skipChar '-' rest
  let (day, rest) ← readDigits 2 0 rest
  let rest ←
    match rest with
    | c :: more => if c = 'T' ∨ c = 't' ∨ c = ' ' then some more else none
    | [] => none
  let (hour, rest) ← readDigits 2 0 rest
  let rest ← skipChar ':' rest
  let (minute, rest) ← readDigits 2 0 rest
  let rest ← skipChar ':' rest
  let (second, rest) ← readDigits 2 0 rest
  let (fraction, rest) :=
    match rest with
    | '.' :: more => (more.takeWhile Char.isDigit, more.dropWhile Char.isDigit)
    | more => ([], more)
  let zone ← readZone rest
  if month = 0 ∨ month > 12 ∨ day = 0 ∨ day > 31 ∨ hour > 23 ∨ minute > 59 ∨ second > 60 then none
  else
    let digits := (fraction ++ List.replicate 9 '0').take 9
    let nanos := digits.foldl (fun n c => 10 * n + (c.toNat - 48)) 0
    let inDay := Int.ofNat (3600 * hour + 60 * minute + min second 59)
    some ⟨dayOf (Int.ofNat year) month day * 86400 + inDay - zone,
      nanos + if second = 60 then 1000000000 else 0⟩

end Timestamp

end SqlBench
