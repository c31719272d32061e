set_option autoImplicit false

namespace SqlBench.Sql

inductive Token where
  | word (text : String)
  | name (text : String)
  | number (text : String)
  | text (value : String)
  | symbol (text : String)
  deriving DecidableEq, Repr

namespace Token

-- What the scanner is inside of; the characters so far are given backwards.
inductive Mode where
  | between
  | word (done : List Char)
  | number (done : List Char)
  | name (done : List Char)
  | text (done : List Char)
  | lineComment
  | blockComment (depth : Nat)

def startsWord (c : Char) : Bool :=
  c.isAlpha || c == '_' || c.toNat ≥ 128

def inWord (c : Char) : Bool :=
  startsWord c || c.isDigit || c == '$'

def pairs : List (Char × Char) :=
  [('<', '='), ('>', '='), ('<', '>'), ('!', '='), ('=', '=')]

def finished? : Mode → Option (List Token)
  | .between => some []
  | .word done => some [.word (String.ofList (done.reverse.map Char.toLower))]
  | .number done => some [.number (String.ofList done.reverse)]
  | .lineComment => some []
  | _ => none

def begin? (c : Char) : Option Mode :=
  if startsWord c then some (.word [c])
  else if c.isDigit then some (.number [c])
  else if c == '"' then some (.name [])
  else if c == '\'' then some (.text [])
  else if c == ' ' || c == '\t' || c == '\n' || c == '\r' then some .between
  else none

def scanFrom : Mode → List Char → Option (List Token)
  | mode, [] => finished? mode
  | .name done, '"' :: '"' :: rest => scanFrom (.name ('"' :: done)) rest
  | .name done, c :: rest =>
    if c == '"' then (scanFrom .between rest).map (.name (String.ofList done.reverse) :: ·)
    else scanFrom (.name (c :: done)) rest
  | .text done, '\'' :: '\'' :: rest => scanFrom (.text ('\'' :: done)) rest
  | .text done, c :: rest =>
    if c == '\'' then (scanFrom .between rest).map (.text (String.ofList done.reverse) :: ·)
    else scanFrom (.text (c :: done)) rest
  | .lineComment, c :: rest => scanFrom (if c == '\n' then .between else .lineComment) rest
  | .blockComment depth, '*' :: '/' :: rest =>
    scanFrom (if depth = 0 then .between else .blockComment (depth - 1)) rest
  | .blockComment depth, '/' :: '*' :: rest => scanFrom (.blockComment (depth + 1)) rest
  | .blockComment depth, _ :: rest => scanFrom (.blockComment depth) rest
  | mode, '-' :: '-' :: rest => do
    let before ← finished? mode
    let behind ← scanFrom .lineComment rest
    pure (before ++ behind)
  | mode, '/' :: '*' :: rest => do
    let before ← finished? mode
    let behind ← scanFrom (.blockComment 0) rest
    pure (before ++ behind)
  | .word done, c :: rest =>
    if inWord c then scanFrom (.word (c :: done)) rest
    else do
      let before ← finished? (.word done)
      match begin? c with
      | some mode => (scanFrom mode rest).map (before ++ ·)
      | none => (scanSymbol c rest).map (before ++ ·)
  | .number done, c :: rest =>
    if c.isDigit || c == '.' then scanFrom (.number (c :: done)) rest
    else do
      let before ← finished? (.number done)
      match begin? c with
      | some mode => (scanFrom mode rest).map (before ++ ·)
      | none => (scanSymbol c rest).map (before ++ ·)
  | .between, c :: rest =>
    match begin? c with
    | some mode => scanFrom mode rest
    | none => scanSymbol c rest
where
  scanSymbol (c : Char) : List Char → Option (List Token)
  | d :: rest =>
    if pairs.contains (c, d) then
      (scanFrom .between rest).map (.symbol (String.ofList [c, d]) :: ·)
    else (scanFrom .between (d :: rest)).map (.symbol c.toString :: ·)
  | [] => some [.symbol c.toString]

def scan (sql : String) : Option (List Token) :=
  scanFrom .between sql.toList

end Token

end SqlBench.Sql
