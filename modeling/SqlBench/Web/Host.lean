import SqlBench.Text.Cut
import SqlBench.Text.Quoted
import SqlBench.Json.Reader

set_option autoImplicit false

namespace SqlBench.Web.Host

def digit? (base : Nat) (c : Char) : Option Nat :=
  match Json.hexValue? c with
  | some n => if n < base then some n else none
  | none => none

def digits? (base : Nat) : Nat → List Char → Option Nat
  | n, [] => some n
  | n, c :: rest =>
    match digit? base c with
    | some d => digits? base (n * base + d) rest
    | none => none

def part? : List Char → Option Nat
  | [] => none
  | '0' :: 'x' :: rest => digits? 16 0 rest
  | '0' :: 'X' :: rest => digits? 16 0 rest
  | '0' :: c :: rest => digits? 8 0 (c :: rest)
  | part => digits? 10 0 part

def partsOf (s : List Char) : List (List Char) :=
  let parts := Text.pieces '.' s
  match parts.reverse with
  | [] :: p :: rest => (p :: rest).reverse
  | _ => parts

def endsInNumber (s : List Char) : Bool :=
  match (partsOf s).getLast? with
  | some last => (!last.isEmpty && last.all Char.isDigit) || (part? last).isSome
  | none => false

-- Reads a number of four octets; the last part stands for all octets that are not given.
def fourOctets? (s : List Char) : Option Nat := do
  let numbers ← (partsOf s).mapM part?
  if numbers.length > 4 then none
  else
    let firsts := numbers.dropLast
    let last ← numbers.getLast?
    if firsts.any fun n => n > 255 then none
    else if last ≥ Nat.pow 256 (5 - numbers.length) then none
    else
      let rec place : List Nat → Nat → Nat
        | [], _ => 0
        | n :: rest, k => n * Nat.pow 256 k + place rest (k - 1)
      pure (place firsts 3 + last)

def fourOctetsText (n : Nat) : List Char :=
  (toString (n / 16777216) ++ "." ++ toString (n / 65536 % 256) ++ "." ++
    toString (n / 256 % 256) ++ "." ++ toString (n % 256)).toList

def group? (s : List Char) : Option Nat :=
  if s.isEmpty || s.length > 4 then none else digits? 16 0 s

def octet? (s : List Char) : Option Nat :=
  match s with
  | ['0'] => some 0
  | '0' :: _ => none
  | _ =>
    if s.isEmpty then none
    else
      match digits? 10 0 s with
      | some n => if n < 256 then some n else none
      | none => none

def lastGroups? (s : List Char) : Option (List Nat) :=
  if s.contains '.' then
    match (Text.pieces '.' s).mapM octet? with
    | some [a, b, c, d] => some [256 * a + b, 256 * c + d]
    | _ => none
  else (group? s).map fun g => [g]

def groups? (mayEndInOctets : Bool) (s : List Char) : Option (List Nat) :=
  if s.isEmpty then some []
  else
    let pieces := Text.pieces ':' s
    if mayEndInOctets then do
      let firsts ← pieces.dropLast.mapM group?
      let last ← lastGroups? (pieces.getLastD [])
      pure (firsts ++ last)
    else pieces.mapM group?

def cutAtGap : List Char → Option (List Char × List Char)
  | [] => none
  | ':' :: ':' :: rest => some ([], rest)
  | c :: rest => (cutAtGap rest).map fun (before, behind) => (c :: before, behind)

-- Reads a number of eight groups; a double colon stands for one or more groups of zero.
def eightGroups? (s : List Char) : Option (List Nat) :=
  match cutAtGap s with
  | none => do
    let groups ← groups? true s
    if groups.length = 8 then some groups else none
  | some (before, behind) => do
    let before ← groups? false before
    let behind ← groups? true behind
    let given := before.length + behind.length
    if given ≤ 7 then some (before ++ List.replicate (8 - given) 0 ++ behind) else none

def zerosAt (groups : List Nat) : Nat :=
  (groups.takeWhile fun g => g == 0).length

def longestGap (groups : List Nat) : Nat × Nat :=
  (List.range groups.length).foldl
    (fun best start =>
      let length := zerosAt (groups.drop start)
      if length > best.2 then (start, length) else best)
    (0, 0)

def groupsText (groups : List Nat) : List Char :=
  Text.joinWith [':'] (groups.map Text.hex)

-- The written form of a number of eight groups; the longest run of zeros, if there are two or more,
-- is a double colon.
def eightGroupsText (groups : List Nat) : List Char :=
  let (start, length) := longestGap groups
  let inside :=
    if length ≥ 2 then
      groupsText (groups.take start) ++ "::".toList ++ groupsText (groups.drop (start + length))
    else groupsText groups
  '[' :: inside ++ [']']

def isForbidden (c : Char) : Bool :=
  c.toNat ≤ 32 || c.toNat ≥ 127 || "#/:<>?@[\\]^|%".toList.contains c

def unescaped : List Char → List Char
  | '%' :: a :: b :: rest =>
    match digit? 16 a, digit? 16 b with
    | some high, some low => Char.ofNat (16 * high + low) :: unescaped rest
    | _, _ => '%' :: unescaped (a :: b :: rest)
  | c :: rest => c :: unescaped rest
  | [] => []

def written? : List Char → Option (List Char)
  | [] => none
  | '[' :: rest =>
    match rest.reverse with
    | ']' :: inside => (eightGroups? inside.reverse).map eightGroupsText
    | _ => none
  | name =>
    let name := (unescaped name).map Char.toLower
    if name.any isForbidden then none
    else if endsInNumber name then (fourOctets? name).map fourOctetsText
    else some name

end SqlBench.Web.Host
