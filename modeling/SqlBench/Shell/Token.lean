import SqlBench.Shell.Syntax

set_option autoImplicit false

namespace SqlBench.Shell

inductive Token where
  | word (w : Word)
  | operator (text : String) (stream : Option Nat)
  | newline
  deriving DecidableEq, Repr

namespace Token

def startsName (c : Char) : Bool :=
  c.isAlpha || c == '_'

def isInName (c : Char) : Bool :=
  c.isAlphanum || c == '_'

def isSpecial (c : Char) : Bool :=
  c == '?' || c == '$' || c == '#' || c == '@' || c == '*' || c == '!' || c == '-' || c.isDigit

-- The text up to the bracket that closes, and what follows it; brackets inside and quotes are
-- skipped.
def bracketed (opening closing : Char) : Nat → List Char → Option (List Char × List Char)
  | _, [] => none
  | depth, '\\' :: c :: rest =>
    (bracketed opening closing depth rest).map fun p => ('\\' :: c :: p.1, p.2)
  | depth, c :: rest =>
    if c = closing then
      match depth with
      | 0 => some ([], rest)
      | outer + 1 => (bracketed opening closing outer rest).map fun p => (c :: p.1, p.2)
    else
      let inner := if c = opening then depth + 1 else depth
      (bracketed opening closing inner rest).map fun p => (c :: p.1, p.2)

def backquoted : List Char → Option (List Char × List Char)
  | [] => none
  | '\x60' :: rest => some ([], rest)
  | c :: rest => (backquoted rest).map fun p => (c :: p.1, p.2)

def braced (isQuoted : Bool) (body : List Char) : Option Piece :=
  match body with
  | [] => none
  | c :: rest =>
    let name := if startsName c then c :: rest.takeWhile isInName else [c]
    let behind := if startsName c then rest.dropWhile isInName else rest
    if !(startsName c || isSpecial c) then none
    else
      match behind with
      | [] => some (.parameter (String.ofList name) none isQuoted)
      | ':' :: '-' :: fallback => some (.parameter (String.ofList name) (some fallback) isQuoted)
      | '-' :: fallback => some (.parameter (String.ofList name) (some fallback) isQuoted)
      | _ => none

def substitution (isQuoted : Bool) (s : List Char) : Option (Piece × List Char) :=
  match s with
  | '(' :: rest => (bracketed '(' ')' 0 rest).map fun p => (.output p.1 isQuoted, p.2)
  | '\x7b' :: rest =>
    (bracketed '\x7b' '\x7d' 0 rest).bind fun p => (braced isQuoted p.1).map fun x => (x, p.2)
  | c :: rest =>
    if startsName c then
      some (.parameter (String.ofList (c :: rest.takeWhile isInName)) none isQuoted,
        rest.dropWhile isInName)
    else if isSpecial c then some (.parameter (String.singleton c) none isQuoted, rest)
    else some (.literal ['$'], c :: rest)
  | [] => some (.literal ['$'], [])

def singleQuoted : List Char → Option (List Char × List Char)
  | [] => none
  | '\'' :: rest => some ([], rest)
  | c :: rest => (singleQuoted rest).map fun p => (c :: p.1, p.2)

def doubleQuoted : Nat → List Char → Option (Word × List Char)
  | 0, _ => none
  | _, [] => none
  | _ + 1, '"' :: rest => some ([], rest)
  | fuel + 1, '\\' :: c :: rest =>
    let text :=
      if c = '"' ∨ c = '\\' ∨ c = '$' ∨ c = '\x60' then [c]
      else if c = '\n' then []
      else ['\\', c]
    (doubleQuoted fuel rest).map fun p => (.literal text :: p.1, p.2)
  | fuel + 1, '$' :: rest =>
    (substitution true rest).bind fun x =>
      (doubleQuoted fuel x.2).map fun p => (x.1 :: p.1, p.2)
  | fuel + 1, '\x60' :: rest =>
    (backquoted rest).bind fun x =>
      (doubleQuoted fuel x.2).map fun p => (.output x.1 true :: p.1, p.2)
  | fuel + 1, c :: rest =>
    (doubleQuoted fuel rest).map fun p => (.literal [c] :: p.1, p.2)

def endsWord (c : Char) : Bool :=
  c == ' ' || c == '\t' || c == '\n' || c == ';' || c == '&' || c == '|' || c == '<' ||
    c == '>' || c == '(' || c == ')'

def wordRest : Nat → List Char → Option (Word × List Char)
  | 0, _ => none
  | _, [] => some ([], [])
  | fuel + 1, '\\' :: c :: rest =>
    let text := if c = '\n' then [] else [Piece.literal [c]]
    (wordRest fuel rest).map fun p => (text ++ p.1, p.2)
  | fuel + 1, '\'' :: rest =>
    (singleQuoted rest).bind fun x =>
      (wordRest fuel x.2).map fun p => (.literal x.1 :: p.1, p.2)
  | fuel + 1, '"' :: rest =>
    (doubleQuoted (rest.length + 1) rest).bind fun x =>
      (wordRest fuel x.2).map fun p => (.literal [] :: x.1 ++ p.1, p.2)
  | fuel + 1, '$' :: rest =>
    (substitution false rest).bind fun x =>
      (wordRest fuel x.2).map fun p => (x.1 :: p.1, p.2)
  | fuel + 1, '\x60' :: rest =>
    (backquoted rest).bind fun x =>
      (wordRest fuel x.2).map fun p => (.output x.1 false :: p.1, p.2)
  | fuel + 1, c :: rest =>
    if endsWord c then some ([], c :: rest)
    else (wordRest fuel rest).map fun p => (.literal [c] :: p.1, p.2)

def operators : List String :=
  ["&>>", "&&", "||", ">>", ">&", ">|", "&>", ";", "&", "|", "(", ")", ">", "<"]

def operator? (s : List Char) : List String → Option (String × List Char)
  | [] => none
  | op :: more =>
    if op.toList.isPrefixOf s then some (op, s.drop op.length) else operator? s more

def isRedirection (op : String) : Bool :=
  op == ">>" || op == ">" || op == "<" || op == ">&" || op == ">|"

def numbered? (s : List Char) : Option (Token × List Char) :=
  match s with
  | c :: rest =>
    if c.isDigit then
      match operator? rest operators with
      | some (op, behind) =>
        if isRedirection op then some (.operator op (some (c.toNat - 48)), behind) else none
      | none => none
    else none
  | [] => none

def scan : Nat → List Char → List Token × Bool
  | 0, _ => ([], true)
  | _, [] => ([], true)
  | fuel + 1, c :: rest =>
    if c = ' ' ∨ c = '\t' then scan fuel rest
    else if c = '\n' then
      let more := scan fuel rest
      (.newline :: more.1, more.2)
    else if c = '#' then scan fuel (rest.dropWhile fun d => d != '\n')
    else
      match numbered? (c :: rest) with
      | some (token, behind) =>
        let more := scan fuel behind
        (token :: more.1, more.2)
      | none =>
        match operator? (c :: rest) operators with
        | some (op, behind) =>
          let more := scan fuel behind
          (.operator op none :: more.1, more.2)
        | none =>
          match wordRest (rest.length + 2) (c :: rest) with
          | some (w, behind) =>
            let more := scan fuel behind
            (.word w :: more.1, more.2)
          | none => ([], false)

def plain? (w : Word) : Option String :=
  let char? : Piece → Option Char
    | .literal [c] => some c
    | _ => none
  (w.mapM char?).map String.ofList

end Token

end SqlBench.Shell
