import SqlBench.Json.Reader
import SqlBench.Yaml.Cursor

set_option autoImplicit false

namespace SqlBench.Yaml

def foldBreaks (first others : List Char) : List Char :=
  if first.head? == some '\n' then if others.isEmpty then [' '] else others
  else first ++ others

structure Gap where
  blanks : List Char
  first : List Char
  others : List Char
  hasBreak : Bool

def Gap.text (g : Gap) : List Char :=
  if g.hasBreak then foldBreaks g.first g.others else g.blanks

def Gap.broken : Gap := ⟨[], [], [], true⟩

def Gap.none : Gap := ⟨[], [], [], false⟩

-- Reads blanks and line breaks. A tab before column `least` of a new line is refused.
def readGap (least : Int) : Nat → Gap → Cursor → Option (Gap × Cursor)
  | 0, g, c => some (g, c)
  | fuel + 1, g, c =>
    match c.peek with
    | Option.none => some (g, c)
    | some x =>
      if isBlank x then
        if g.hasBreak then
          if x == '\t' && Int.ofNat c.column < least then Option.none
          else readGap least fuel g c.skip
        else readGap least fuel { g with blanks := g.blanks ++ [x] } c.skip
      else if isBreak x then
        let (written, c) := c.readBreak
        if g.hasBreak then readGap least fuel { g with others := g.others ++ written } c
        else readGap least fuel { g with first := written, hasBreak := true } c
      else some (g, c)

def hexNumber? (digits : List Char) : Option Nat :=
  digits.foldlM (fun n c => (Json.hexValue? c).map fun d => 16 * n + d) 0

def escape? (c : Char) : Option (Nat ⊕ Nat) :=
  match c with
  | '0' => some (.inl 0)
  | 'a' => some (.inl 7)
  | 'b' => some (.inl 8)
  | 't' => some (.inl 9)
  | '\t' => some (.inl 9)
  | 'n' => some (.inl 10)
  | 'v' => some (.inl 11)
  | 'f' => some (.inl 12)
  | 'r' => some (.inl 13)
  | 'e' => some (.inl 27)
  | ' ' => some (.inl 32)
  | '"' => some (.inl 34)
  | '/' => some (.inl 47)
  | '\\' => some (.inl 92)
  | 'N' => some (.inl 0x85)
  | '_' => some (.inl 0xA0)
  | 'L' => some (.inl 0x2028)
  | 'P' => some (.inl 0x2029)
  | 'x' => some (.inr 2)
  | 'u' => some (.inr 4)
  | 'U' => some (.inr 8)
  | _ => Option.none

def readEscape (c : Cursor) : Option (Char × Cursor) :=
  match c.peek.bind escape? with
  | Option.none => Option.none
  | some (.inl n) => some (Char.ofNat n, c.skip)
  | some (.inr count) =>
    let digits := (c.skip.rest).take count
    if digits.length < count then Option.none
    else
      match hexNumber? digits with
      | Option.none => Option.none
      | some n =>
        if (0xD800 ≤ n ∧ n < 0xE000) ∨ 0x10FFFF < n then Option.none
        else some (Char.ofNat n, c.skip.skipMany count)

def readQuoted (quote : Char) : Nat → List Char → Cursor → Option (List Char × Cursor)
  | 0, _, _ => Option.none
  | fuel + 1, done, c =>
    if c.atDocumentMark then Option.none
    else
      match c.rest with
      | [] => Option.none
      | x :: rest =>
        if x == quote then
          if quote == '\'' && rest.head? == some '\'' then
            readQuoted quote fuel ('\'' :: done) c.skip.skip
          else some (done.reverse, c.skip)
        else if x == '\\' && quote == '"' then
          if rest.head?.any isBreak then
            let (_, c) := c.skip.readBreak
            match readGap 0 rest.length .broken c with
            | some (g, c) => readQuoted quote fuel (g.text.reverse ++ done) c
            | Option.none => Option.none
          else
            match readEscape c.skip with
            | some (e, c) => readQuoted quote fuel (e :: done) c
            | Option.none => Option.none
        else if isBlank x || isBreak x then
          match readGap 0 (rest.length + 1) .none c with
          | some (g, c) => readQuoted quote fuel (g.text.reverse ++ done) c
          | Option.none => Option.none
        else readQuoted quote fuel (x :: done) c.skip

def isFlowMark (c : Char) : Bool :=
  c == ',' || c == '[' || c == ']' || c == '\x7b' || c == '\x7d'

-- Reads a plain scalar. `gap` stands between what was read and the next word; `least` is the column
-- that its lines start at. Tells whether a line break was read behind it.
def readPlain (inFlow : Bool) (least : Int) :
    Nat → List Char → Gap → Bool → Cursor → Option (List Char × Bool × Cursor)
  | 0, _, _, _, _ => Option.none
  | fuel + 1, done, gap, afterGap, c =>
    let stop := some (done.reverse, gap.hasBreak, c)
    if c.atDocumentMark then stop
    else
      match c.rest with
      | [] => stop
      | x :: rest =>
        if afterGap && x == '#' then stop
        else if isBlank x || isBreak x then
          match readGap least (rest.length + 1) gap c with
          | Option.none => Option.none
          | some (gap, c) =>
            if !inFlow && Int.ofNat c.column < least then some (done.reverse, gap.hasBreak, c)
            else readPlain inFlow least fuel done gap true c
        else if x == ':' && inFlow && rest.head?.any fun y => isFlowMark y || y == '?' then
          Option.none
        else if (x == ':' && endsWord rest) || (inFlow && isFlowMark x) then stop
        else readPlain inFlow least fuel (x :: (gap.text.reverse ++ done)) .none false c.skip

inductive Chomp where
  | strip | clip | keep
  deriving DecidableEq, Repr

def readChomp (c : Cursor) : Option Chomp × Cursor :=
  match c.peek with
  | some '+' => (some .keep, c.skip)
  | some '-' => (some .strip, c.skip)
  | _ => (Option.none, c)

def readIndent (c : Cursor) : Option (Nat × Cursor) :=
  match c.peek with
  | some d =>
    if d == '0' then Option.none
    else if d.isDigit then some (d.toNat - 48, c.skip)
    else some (0, c)
  | Option.none => some (0, c)

def readHeader (c : Cursor) : Option (Chomp × Nat × Cursor) :=
  match readChomp c with
  | (some chomp, c) => (readIndent c).map fun r => (chomp, r.1, r.2)
  | (Option.none, c) =>
    (readIndent c).map fun r =>
      if r.1 = 0 then (.clip, 0, r.2)
      else
        let (chomp, c) := readChomp r.2
        (chomp.getD .clip, r.1, c)

-- Reads the empty lines of a block and the indentation of the next line. An indentation of zero is
-- not known yet; `widest` is the widest so far. A tab in the indentation is refused.
def readEmptyLines (indent : Nat) :
    Nat → Nat → List Char → Cursor → Option (Nat × List Char × Cursor)
  | 0, _, _, _ => Option.none
  | fuel + 1, widest, breaks, c =>
    let inside (c : Cursor) : Bool := indent == 0 || c.column < indent
    let spaces := (c.rest.takeWhile fun x => x == ' ').length
    let c := c.skipMany (if indent == 0 then spaces else min spaces (indent - c.column))
    let widest := max widest c.column
    match c.peek with
    | some x =>
      if x == '\t' && inside c then Option.none
      else if isBreak x then
        let (written, c) := c.readBreak
        readEmptyLines indent fuel widest (breaks ++ written) c
      else some (widest, breaks, c)
    | Option.none => some (widest, breaks, c)

-- Reads the lines of a block. `pending` is the last line break, `breaks` are those of empty lines
-- behind it, and `wasBlank` tells whether the last line started with a blank.
def readLines (folded : Bool) (indent : Nat) :
    Nat → List Char → List Char → List Char → Bool → Cursor →
      Option (List Char × List Char × List Char × Cursor)
  | 0, _, _, _, _, _ => Option.none
  | fuel + 1, done, pending, breaks, wasBlank, c =>
    match c.peek with
    | Option.none => some (done, pending, breaks, c)
    | some x =>
      if c.column ≠ indent then some (done, pending, breaks, c)
      else
        let isIndented := isBlank x
        let joint :=
          if folded && pending == ['\n'] && !wasBlank && !isIndented then
            if breaks.isEmpty then [' '] else breaks
          else pending ++ breaks
        let line := c.rest.takeWhile fun y => !isBreak y
        let (written, next) := (c.skipMany line.length).readBreak
        match readEmptyLines indent (next.rest.length + 1) 0 [] next with
        | Option.none => Option.none
        | some (_, breaks, next) =>
          readLines folded indent fuel (done ++ joint ++ line) written breaks isIndented next

def readBlock (folded : Bool) (outer : Int) (c : Cursor) : Option (List Char × Cursor) := do
  let (chomp, given, c) ← readHeader c
  let c := c.skipWhile isBlank
  let c := if c.peek == some '#' then c.skipWhile fun x => !isBreak x else c
  if !endsLine c.rest then Option.none
  else
    let (_, c) := c.readBreak
    let known : Nat := if given = 0 then 0 else (max outer 0).toNat + given
    let (widest, breaks, c) ← readEmptyLines known (c.rest.length + 1) 0 [] c
    let indent := if known = 0 then max (max widest (outer + 1).toNat) 1 else known
    let (text, pending, breaks, c) ←
      readLines folded indent (c.rest.length + 1) [] [] breaks false c
    let tail :=
      match chomp with
      | .strip => []
      | .clip => pending
      | .keep => pending ++ breaks
    some (text ++ tail, c)

end SqlBench.Yaml
