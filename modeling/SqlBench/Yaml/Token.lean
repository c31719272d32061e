import SqlBench.Text.Octets
import SqlBench.Yaml.ScalarText

set_option autoImplicit false

namespace SqlBench.Yaml

inductive Style where
  | plain | quoted | literal | folded
  deriving DecidableEq, Repr

inductive Token where
  | versionDirective (major minor : Nat)
  | tagDirective (handle target : String)
  | documentStart
  | documentEnd
  | blockSequenceStart
  | blockMappingStart
  | blockEnd
  | flowSequenceStart
  | flowSequenceEnd
  | flowMappingStart
  | flowMappingEnd
  | blockEntry
  | flowEntry
  | key
  | value
  | alias (name : String)
  | anchor (name : String)
  | tag (handle suffix : String)
  | scalar (text : String) (style : Style)
  | streamEnd
  deriving DecidableEq, Repr

-- A place where a key may have started: the number of its token, and whether a colon must follow.
structure PossibleKey where
  required : Bool
  token : Nat
  index : Nat
  line : Nat
  column : Nat

-- The scanner between two tokens. `keys` holds a possible key for each open bracket and one for the
-- outside; `tokens` are the tokens so far, backwards.
structure Scanner where
  cursor : Cursor
  indent : Int
  indents : List Int
  keyAllowed : Bool
  keys : List (Option PossibleKey)
  tokens : List Token
  done : Bool

namespace Scanner

def inFlow (s : Scanner) : Bool :=
  1 < s.keys.length

def add (s : Scanner) (t : Token) : Scanner :=
  { s with tokens := t :: s.tokens }

def insertAt (s : Scanner) (number : Nat) (t : Token) : Scanner :=
  let behind := s.tokens.length - number
  { s with tokens := s.tokens.take behind ++ t :: s.tokens.drop behind }

-- Gives up a possible key that cannot go on; none may be given up that must be one.
def dropStale (s : Scanner) : Option Scanner :=
  let isStale (k : PossibleKey) : Bool :=
    k.line < s.cursor.line || k.index + 1024 < s.cursor.index
  if s.keys.any fun k => k.any fun k => isStale k && k.required then none
  else some { s with keys := s.keys.map fun k => k.filter fun k => !isStale k }

def dropKey (s : Scanner) : Option Scanner :=
  match s.keys with
  | some k :: rest => if k.required then none else some { s with keys := none :: rest }
  | _ => some s

def saveKey (s : Scanner) : Option Scanner :=
  if !s.keyAllowed then some s
  else
    (s.dropKey).map fun s =>
      let c := s.cursor
      let required := !s.inFlow && s.indent == Int.ofNat c.column
      { s with keys := some ⟨required, s.tokens.length, c.index, c.line, c.column⟩ ::
          s.keys.tail }

def openIndent (s : Scanner) (column : Nat) (number : Option Nat) (t : Token) : Scanner :=
  if s.inFlow || !(s.indent < Int.ofNat column) then s
  else
    let s := { s with indents := s.indent :: s.indents, indent := Int.ofNat column }
    match number with
    | some n => s.insertAt n t
    | none => s.add t

def closeIndents (s : Scanner) (column : Int) : Scanner :=
  if s.inFlow then s
  else
    let rec go : List Int → Scanner → Scanner
      | [], s => s
      | outer :: rest, s =>
        if column < s.indent then
          go rest { s with indent := outer, indents := rest, tokens := .blockEnd :: s.tokens }
        else s
    go s.indents s

def toNextToken : Nat → Scanner → Scanner
  | 0, s => s
  | fuel + 1, s =>
    let isGap (x : Char) : Bool := x == ' ' || (x == '\t' && (s.inFlow || !s.keyAllowed))
    let c := s.cursor.skipWhile isGap
    let c := if c.peek == some '#' then c.skipWhile fun x => !isBreak x else c
    if c.peek.any isBreak then
      toNextToken fuel
        { s with cursor := c.readBreak.2, keyAllowed := s.keyAllowed || !s.inFlow }
    else { s with cursor := c }

def mark (s : Scanner) (length : Nat) (t : Token) : Scanner :=
  { s with cursor := s.cursor.skipMany length, tokens := t :: s.tokens }

def fetchEnd (s : Scanner) : Option Scanner :=
  ((s.closeIndents (-1)).dropKey).map fun s =>
    { s.add .streamEnd with keyAllowed := false, done := true }

def fetchDocumentMark (s : Scanner) (t : Token) : Option Scanner :=
  ((s.closeIndents (-1)).dropKey).map fun s => { s.mark 3 t with keyAllowed := false }

def fetchOpen (s : Scanner) (t : Token) : Option Scanner :=
  (s.saveKey).map fun s =>
    { s.mark 1 t with keys := none :: s.keys, keyAllowed := true }

def fetchClose (s : Scanner) (t : Token) : Option Scanner :=
  (s.dropKey).map fun s =>
    { s.mark 1 t with
      keys := if s.inFlow then s.keys.tail else s.keys
      keyAllowed := false }

def fetchComma (s : Scanner) : Option Scanner :=
  (s.dropKey).map fun s => { s.mark 1 .flowEntry with keyAllowed := true }

def fetchItem (s : Scanner) : Option Scanner :=
  if !s.inFlow && !s.keyAllowed then none
  else
    ((s.openIndent s.cursor.column none .blockSequenceStart).dropKey).map fun s =>
      { s.mark 1 .blockEntry with keyAllowed := true }

def fetchKey (s : Scanner) : Option Scanner :=
  if !s.inFlow && !s.keyAllowed then none
  else
    ((s.openIndent s.cursor.column none .blockMappingStart).dropKey).map fun s =>
      { s.mark 1 .key with keyAllowed := !s.inFlow }

def fetchValue (s : Scanner) : Option Scanner :=
  match s.keys with
  | some k :: rest =>
    let s := s.insertAt k.token .key
    let s := s.openIndent k.column (some k.token) .blockMappingStart
    some { s.mark 1 .value with keys := none :: rest, keyAllowed := false }
  | _ =>
    if s.inFlow then some { s.mark 1 .value with keyAllowed := false }
    else if !s.keyAllowed then none
    else
      let s := s.openIndent s.cursor.column none .blockMappingStart
      some { s.mark 1 .value with keyAllowed := true }

def addRead (s : Scanner) (read : Option (Token × Cursor)) : Option Scanner :=
  read.map fun r => { s with cursor := r.2, tokens := r.1 :: s.tokens }

def readName (c : Cursor) : Option (String × Cursor) :=
  let name := c.rest.takeWhile isWordChar
  let next := c.skipMany name.length
  let ends :=
    match next.peek with
    | none => true
    | some x => isBlank x || isBreak x || "?:,]\x7d%@".toList.contains x || x.toNat == 96
  if name.isEmpty || !ends then none else some (String.ofList name, next)

def readHandle (c : Cursor) : Option (List Char × Cursor) :=
  match c.rest with
  | '!' :: rest =>
    let name := rest.takeWhile isWordChar
    match rest.drop name.length with
    | '!' :: _ => some ('!' :: name ++ ['!'], c.skipMany (name.length + 2))
    | _ => some ('!' :: name, c.skipMany (name.length + 1))
  | _ => none

def isTagChar (verbatim : Bool) (x : Char) : Bool :=
  isWordChar x || ";/?:@&=+$.!~*'()%".toList.contains x || (verbatim && ",[]".toList.contains x)

def unescapeTag : Nat → List Char → Option (List UInt8)
  | 0, _ => some []
  | _ + 1, [] => some []
  | fuel + 1, '%' :: a :: b :: rest => do
    let a ← Json.hexValue? a
    let b ← Json.hexValue? b
    let octets ← unescapeTag fuel rest
    some (UInt8.ofNat (16 * a + b) :: octets)
  | _ + 1, '%' :: _ => none
  | fuel + 1, x :: rest => do
    let octets ← unescapeTag fuel rest
    some (x.toString.toUTF8.toList ++ octets)

def readTagText (verbatim : Bool) (c : Cursor) : Option (String × Cursor) := do
  let written := c.rest.takeWhile (isTagChar verbatim)
  let octets ← unescapeTag (written.length + 1) written
  let text ← Text.decode? octets
  some (text, c.skipMany written.length)

def readTag (inFlow : Bool) (c : Cursor) : Option (Token × Cursor) := do
  let (handle, suffix, next) ←
    match c.rest with
    | '!' :: '<' :: _ => do
      let (text, next) ← readTagText true c.skip.skip
      if text.isEmpty || next.peek != some '>' then none else some ("", text, next.skip)
    | _ => do
      let (handle, next) ← readHandle c
      let (suffix, next) ← readTagText false next
      if 1 < handle.length && handle.getLast? == some '!' then
        if suffix.isEmpty then none else some (String.ofList handle, suffix, next)
      else
        let suffix := String.ofList handle.tail ++ suffix
        if suffix.isEmpty then some ("", "!", next) else some ("!", suffix, next)
  if endsWord next.rest || (inFlow && next.peek == some ',') then
    some (.tag handle suffix, next)
  else none

def readVersionPart (c : Cursor) : Option (Nat × Cursor) :=
  let digits := c.rest.takeWhile Char.isDigit
  if digits.isEmpty || 9 < digits.length then none
  else some (Decimal.natOf digits, c.skipMany digits.length)

def readDirective (c : Cursor) : Option (Token × Cursor) := do
  let c := c.skip
  let name := c.rest.takeWhile isWordChar
  let next := c.skipMany name.length
  if name.isEmpty || !endsWord next.rest then none
  else
    let next := next.skipWhile isBlank
    let (t, next) ←
      match String.ofList name with
      | "YAML" => do
        let (major, next) ← readVersionPart next
        if next.peek != some '.' then none
        else
          let (minor, next) ← readVersionPart next.skip
          some (Token.versionDirective major minor, next)
      | "TAG" => do
        let (handle, next) ← readHandle next
        if handle.length > 1 && handle.getLast? != some '!' then none
        else if !next.peek.any isBlank then none
        else
          let (target, next) ← readTagText true (next.skipWhile isBlank)
          if target.isEmpty || !endsWord next.rest then none
          else some (Token.tagDirective (String.ofList handle) target, next)
      | _ => none
    let next := next.skipWhile isBlank
    let next := if next.peek == some '#' then next.skipWhile fun x => !isBreak x else next
    if !endsLine next.rest then none
    else some (t, next.readBreak.2)

def fetchDirective (s : Scanner) : Option Scanner := do
  let s ← (s.closeIndents (-1)).dropKey
  { s with keyAllowed := false }.addRead (readDirective s.cursor)

def fetchSimple (s : Scanner) (read : Cursor → Option (Token × Cursor)) : Option Scanner := do
  let s ← s.saveKey
  { s with keyAllowed := false }.addRead (read s.cursor)

def fetchQuoted (s : Scanner) (quote : Char) : Option Scanner :=
  s.fetchSimple fun c =>
    (readQuoted quote (c.rest.length + 1) [] c.skip).map fun r =>
      (.scalar (String.ofList r.1) .quoted, r.2)

def fetchPlain (s : Scanner) : Option Scanner := do
  let s ← s.saveKey
  let c := s.cursor
  let (text, broken, next) ←
    readPlain s.inFlow (s.indent + 1) (2 * c.rest.length + 2) [] .none false c
  { s with keyAllowed := broken }.addRead (some (.scalar (String.ofList text) .plain, next))

def fetchBlock (s : Scanner) (folded : Bool) : Option Scanner := do
  let s ← s.dropKey
  let style := if folded then Style.folded else .literal
  let read := (readBlock folded s.indent s.cursor.skip).map fun r =>
    (Token.scalar (String.ofList r.1) style, r.2)
  { s with keyAllowed := true }.addRead read

def startsPlain (x : Char) : Bool :=
  !(isBlank x || isBreak x || "-?:,[]\x7b\x7d#&*!|>'\"%@".toList.contains x || x.toNat == 96)

def fetch (s : Scanner) : Option Scanner := do
  let s := s.toNextToken (s.cursor.rest.length + 1)
  let s ← s.dropStale
  let s := s.closeIndents (Int.ofNat s.cursor.column)
  let c := s.cursor
  match c.rest with
  | [] => s.fetchEnd
  | x :: rest =>
    let aloneHere := endsWord rest
    if c.column == 0 && x == '%' then s.fetchDirective
    else if c.atMark '-' then s.fetchDocumentMark .documentStart
    else if c.atMark '.' then s.fetchDocumentMark .documentEnd
    else if x == '[' then s.fetchOpen .flowSequenceStart
    else if x == '\x7b' then s.fetchOpen .flowMappingStart
    else if x == ']' then s.fetchClose .flowSequenceEnd
    else if x == '\x7d' then s.fetchClose .flowMappingEnd
    else if x == ',' then s.fetchComma
    else if x == '-' && aloneHere then s.fetchItem
    else if x == '?' && (s.inFlow || aloneHere) then s.fetchKey
    else if x == ':' && (s.inFlow || aloneHere) then s.fetchValue
    else if x == '*' then
      s.fetchSimple fun c => (readName c.skip).map fun r => (.alias r.1, r.2)
    else if x == '&' then
      s.fetchSimple fun c => (readName c.skip).map fun r => (.anchor r.1, r.2)
    else if x == '!' then s.fetchSimple (readTag s.inFlow)
    else if x == '|' && !s.inFlow then s.fetchBlock false
    else if x == '>' && !s.inFlow then s.fetchBlock true
    else if x == '\'' || x == '"' then s.fetchQuoted x
    else if startsPlain x || (x == '-' && !rest.head?.any isBlank) ||
        (!s.inFlow && (x == '?' || x == ':') && !aloneHere) then s.fetchPlain
    else none

def settled (s : Scanner) : List Token :=
  let numbers := s.keys.filterMap fun k => k.map fun k => k.token
  let count := numbers.foldl min s.tokens.length
  s.tokens.reverse.take count

def run : Nat → Scanner → List Token × Bool
  | 0, s => (s.settled, false)
  | fuel + 1, s =>
    if s.done then (s.tokens.reverse, true)
    else
      match s.dropStale with
      | none => (s.settled, false)
      | some s =>
        match s.fetch with
        | none => (s.settled, false)
        | some s => run fuel s

end Scanner

def scan (text : String) : List Token × Bool :=
  let chars :=
    match text.toList with
    | c :: rest => if c.toNat == 0xFEFF then rest else c :: rest
    | [] => []
  if !chars.all isAllowed then ([], false)
  else
    Scanner.run (chars.length + 2) ⟨.start chars, -1, [], true, [none], [], false⟩

end SqlBench.Yaml
