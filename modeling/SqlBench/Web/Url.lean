import SqlBench.Web.Host

set_option autoImplicit false

namespace SqlBench.Web

structure Url where
  scheme : List Char
  host : Option (List Char)
  port : Option Nat
  tail : List Char
  deriving DecidableEq, Repr, Inhabited

namespace Url

def text (u : Url) : String :=
  let place :=
    match u.host with
    | some host =>
      let port :=
        match u.port with
        | some n => ':' :: (toString n).toList
        | none => []
      "//".toList ++ host ++ port
    | none => []
  String.ofList (u.scheme ++ ':' :: place ++ u.tail)

def isServed (u : Url) : Bool :=
  u.host.isSome && (u.scheme == "http".toList || u.scheme == "https".toList)

def capitalDigit (n : Nat) : Char :=
  if n < 10 then Char.ofNat (48 + n) else Char.ofNat (55 + n)

def escaped (c : Char) : List Char :=
  c.toString.toUTF8.toList.flatMap fun b =>
    ['%', capitalDigit (b.toNat / 16), capitalDigit (b.toNat % 16)]

def escape (reserved : List Char) (s : List Char) : List Char :=
  s.flatMap fun c =>
    if c.toNat < 32 || c.toNat > 126 || reserved.contains c then escaped c else [c]

def fragmentReserved : List Char := [' ', '"', '<', '>', '\x60']

def pathReserved : List Char := fragmentReserved ++ ['#', '?', '\x7b', '\x7d']

def queryReserved (special : Bool) : List Char :=
  [' ', '"', '#', '<', '>'] ++ (if special then ['\''] else [])

def portOf? (scheme : List Char) : Option Nat :=
  if scheme == "http".toList || scheme == "ws".toList then some 80
  else if scheme == "https".toList || scheme == "wss".toList then some 443
  else if scheme == "ftp".toList then some 21
  else none

def cleaned (s : List Char) : List Char :=
  let isOuter := fun c : Char => c.toNat ≤ 32
  let inner := ((s.dropWhile isOuter).reverse.dropWhile isOuter).reverse
  inner.filter fun c => !(c == '\t' || c == '\n' || c == '\r')

def cutScheme (s : List Char) : Option (List Char × List Char) :=
  match s with
  | c :: _ =>
    if c.isAlpha then
      let isPart := fun c : Char => c.isAlphanum || c == '+' || c == '-' || c == '.'
      match s.dropWhile isPart with
      | ':' :: rest => some ((s.takeWhile isPart).map Char.toLower, rest)
      | _ => none
    else none
  | [] => none

def endsPlace (special : Bool) (c : Char) : Bool :=
  c == '/' || c == '?' || c == '#' || (special && c == '\\')

def withoutUser (place : List Char) : List Char :=
  if place.contains '@' then
    (place.reverse.takeWhile fun c => c != '@').reverse
  else place

-- Cuts a host from its port: at the first colon that is not in brackets.
def cutPort : Bool → List Char → List Char × Option (List Char)
  | _, [] => ([], none)
  | inBrackets, c :: rest =>
    if c == ':' && !inBrackets then ([], some rest)
    else
      let inBrackets := if c == '[' then true else if c == ']' then false else inBrackets
      let (host, port) := cutPort inBrackets rest
      (c :: host, port)

def port? (scheme : List Char) (port : Option (List Char)) : Option (Option Nat) :=
  match port with
  | none => some none
  | some [] => some none
  | some ds =>
    match Host.digits? 10 0 ds with
    | some n =>
      if n > 65535 then none else if portOf? scheme = some n then some none else some (some n)
    | none => none

def segments (isCut : Char → Bool) : List Char → List (List Char)
  | [] => [[]]
  | c :: rest =>
    if isCut c then [] :: segments isCut rest
    else
      match segments isCut rest with
      | s :: more => (c :: s) :: more
      | [] => [[c]]

def points (segment : List Char) : List Char :=
  match segment with
  | '%' :: '2' :: e :: rest =>
    if e == 'e' || e == 'E' then '.' :: points rest else '%' :: '2' :: e :: points rest
  | c :: rest => c :: points rest
  | [] => []

def resolve : List (List Char) → List (List Char) → List (List Char)
  | done, [] => done
  | done, s :: rest =>
    let isLast := rest.isEmpty
    if points s == ['.', '.'] then
      resolve (if isLast then [] :: done.drop 1 else done.drop 1) rest
    else if points s == ['.'] then resolve (if isLast then [] :: done else done) rest
    else resolve (s :: done) rest

def pathText (special : Bool) (path : List Char) : List Char :=
  let isCut := fun c => c == '/' || (special && c == '\\')
  (resolve [] (segments isCut path)).reverse.flatMap fun s => '/' :: escape pathReserved s

def behindPath (special : Bool) (rest : List Char) : List Char :=
  let (beforeMark, fragment) :=
    match Text.cutAt '#' rest with
    | some (before, behind) => (before, '#' :: escape fragmentReserved behind)
    | none => (rest, [])
  match beforeMark with
  | '?' :: query => '?' :: escape (queryReserved special) query ++ fragment
  | _ => fragment

def tailText (special : Bool) (rest : List Char) : List Char :=
  let isPath := fun c : Char => c != '?' && c != '#'
  let path := rest.takeWhile isPath
  let behind := behindPath special (rest.dropWhile isPath)
  let pathWritten :=
    match path with
    | [] => if special then ['/'] else []
    | _ :: inner => pathText special inner
  pathWritten ++ behind

def readPlace (special : Bool) (scheme rest : List Char) : Option Url := do
  let isPlace := fun c => !endsPlace special c
  let (host, port) := cutPort false (withoutUser (rest.takeWhile isPlace))
  let host ← if host.isEmpty && !special then some [] else Host.written? host
  let port ← port? scheme port
  pure ⟨scheme, some host, port, tailText special (rest.dropWhile isPlace)⟩

def readBare (scheme rest : List Char) : Url :=
  match rest with
  | '/' :: _ => ⟨scheme, none, none, tailText false rest⟩
  | _ =>
    let isPath := fun c : Char => c != '?' && c != '#'
    ⟨scheme, none, none,
      escape [] (rest.takeWhile isPath) ++ behindPath false (rest.dropWhile isPath)⟩

def parse? (s : String) : Option Url := do
  let (scheme, rest) ← cutScheme (cleaned s.toList)
  if (portOf? scheme).isSome then
    readPlace true scheme (rest.dropWhile fun c => c == '/' || c == '\\')
  else
    match rest with
    | '/' :: '/' :: place =>
      if scheme == "file".toList && (place.head?.all (endsPlace true)) then
        pure ⟨scheme, none, none, "//".toList ++ tailText true place⟩
      else readPlace false scheme place
    | _ => pure (readBare scheme rest)

end Url

end SqlBench.Web
