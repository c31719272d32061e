import SqlBench.Decimal.Reading
import SqlBench.Template.Syntax
import SqlBench.Text.Blank
import SqlBench.Text.Cut
import SqlBench.Width

set_option autoImplicit false

namespace SqlBench.Template

open SqlBench.Text

def isGap (c : Char) : Bool :=
  c == ' ' || c == '\t' || c == '\r' || c == '\n'

def skip (s : List Char) : List Char :=
  s.dropWhile isGap

def token (word : String) (s : List Char) : Option (List Char) :=
  afterStart word.toList (skip s)

def spacedWord (word : String) (s : List Char) : Option (List Char) :=
  match token word s with
  | some (c :: rest) => if isGap c then some rest else none
  | _ => none

def isNameChar (c : Char) : Bool :=
  c.isAlphanum || c == '_'

def readName (s : List Char) : Option (List Char × List Char) :=
  match s with
  | c :: rest =>
    if (c.isAlpha || c == '_') then some (c :: rest.takeWhile isNameChar, rest.dropWhile isNameChar)
    else none
  | [] => none

def readWhole (s : List Char) : Option (List Char × List Char) :=
  let (sign, body) :=
    match s with
    | '-' :: rest => (['-'], rest)
    | rest => ([], rest)
  match body with
  | '0' :: rest => some (sign ++ ['0'], rest)
  | c :: rest =>
    if c.isDigit then some (sign ++ c :: rest.takeWhile Char.isDigit, rest.dropWhile Char.isDigit)
    else none
  | [] => none

def wholeValue? (digits : List Char) : Option Int :=
  let n :=
    match digits with
    | '-' :: rest => -Int.ofNat (Decimal.natOf rest)
    | rest => Int.ofNat (Decimal.natOf rest)
  if Width.fitsSigned 64 n then some n else none

def readPoint (s : List Char) : Option (Float × List Char) := do
  let (whole, rest) ← readWhole s
  match rest with
  | '.' :: more =>
    let (fraction, more) := Decimal.spanDigits more
    if fraction.isEmpty then none
    else (Decimal.read (whole ++ '.' :: fraction)).map fun x => (x, more)
  | _ => none

def readString (s : List Char) : Option (List Char × List Char) :=
  match s with
  | q :: rest =>
    if q == '"' || q == '\'' || q == Char.ofNat 96 then cutAt q rest else none
  | [] => none

def readQuoted (s : List Char) : Option (List Char × List Char) :=
  match s with
  | q :: _ => (readString s).map fun r => (q :: r.1 ++ [q], r.2)
  | [] => none

mutual

def readPath : Nat → List Char → Option (List Char × List Char)
  | 0, _ => none
  | fuel + 1, s => do
    let (name, rest) ← readName s
    some (readSteps fuel name rest)

def readSteps : Nat → List Char → List Char → List Char × List Char
  | 0, done, s => (done, s)
  | fuel + 1, done, s =>
    match s with
    | '.' :: rest =>
      let name := rest.takeWhile isNameChar
      if name.isEmpty then (done, s)
      else readSteps fuel (done ++ '.' :: name) (rest.dropWhile isNameChar)
    | '[' :: rest =>
      let inner : Option (List Char × List Char) :=
        match readWhole rest with
        | some r => some r
        | none =>
          match readQuoted rest with
          | some r => some r
          | none => readPath fuel rest
      match inner with
      | some (index, ']' :: more) => readSteps fuel (done ++ '[' :: index ++ [']']) more
      | _ => (done, s)
    | _ => (done, s)

end

def readBool (s : List Char) : Option (Bool × List Char) :=
  match afterStart "true".toList s, afterStart "True".toList s, afterStart "false".toList s,
    afterStart "False".toList s with
  | some rest, _, _, _ => some (true, rest)
  | _, some rest, _, _ => some (true, rest)
  | _, _, some rest, _ => some (false, rest)
  | _, _, _, some rest => some (false, rest)
  | _, _, _, _ => none

def readMathOp (s : List Char) : Option (MathOp × List Char) :=
  match skip s with
  | '+' :: rest => some (.add, rest)
  | '-' :: rest => some (.sub, rest)
  | '*' :: rest => some (.mul, rest)
  | '/' :: rest => some (.div, rest)
  | '%' :: rest => some (.modulo, rest)
  | _ => none

def readCompareOp (s : List Char) : Option (LogicOp × List Char) :=
  match skip s with
  | '<' :: '=' :: rest => some (.lessEq, rest)
  | '>' :: '=' :: rest => some (.greaterEq, rest)
  | '>' :: rest => some (.greater, rest)
  | '<' :: rest => some (.less, rest)
  | '=' :: '=' :: rest => some (.eq, rest)
  | '!' :: '=' :: rest => some (.notEq, rest)
  | _ => none

def readJunction (s : List Char) : Option (LogicOp × List Char) :=
  match spacedWord "or" s with
  | some rest => some (.or, rest)
  | none => (spacedWord "and" s).map fun rest => (.and, rest)

def MathOp.isProduct : MathOp → Bool
  | .mul => true
  | .div => true
  | .modulo => true
  | _ => false

def joinLeft {ω α : Type} (join : ω → α → α → α) (isInner : ω → Bool) :
    α → List (ω × α) → α × List (ω × α)
  | left, [] => (left, [])
  | left, (op, right) :: rest =>
    if isInner op then joinLeft join isInner (join op left right) rest
    else
      let (right, rest) := joinLeft join isInner right rest
      (left, (op, right) :: rest)

def joinRanks {ω α : Type} (join : ω → α → α → α) (isInner : ω → Bool) (first : α)
    (rest : List (ω × α)) : α :=
  let (first, rest) := joinLeft join isInner first rest
  (joinLeft join (fun _ => true) first rest).1

def joinMath : Expr → List (MathOp × Expr) → Expr :=
  joinRanks (fun op l r => .ofTerm (.math op l r)) MathOp.isProduct

def joinLogic : Expr → List (LogicOp × Expr) → Expr :=
  joinRanks (fun op l r => .ofTerm (.logic op l r)) fun op => op == .and

mutual

def readLogic : Nat → List Char → Option (Expr × List Char)
  | 0, _ => none
  | fuel + 1, s => do
    let (first, rest) ← readLogicPart fuel s
    let (more, rest) := readLogicRest fuel rest
    some (joinLogic first more, rest)

def readLogicRest : Nat → List Char → List (LogicOp × Expr) × List Char
  | 0, s => ([], s)
  | fuel + 1, s =>
    match readJunction s with
    | none => ([], s)
    | some (op, rest) =>
      match readLogicPart fuel rest with
      | none => ([], s)
      | some (e, rest) =>
        let (more, rest) := readLogicRest fuel rest
        ((op, e) :: more, rest)

-- Membership or comparison, possibly negated, or a condition in parentheses, whose own negation
-- does not count.
def readLogicPart : Nat → List Char → Option (Expr × List Char)
  | 0, _ => none
  | fuel + 1, s =>
    let (negated, inner) :=
      match spacedWord "not" s with
      | some rest => (true, rest)
      | none => (false, s)
    let plain : Option (Expr × List Char) :=
      match readMember fuel inner with
      | some r => some r
      | none => readComparison fuel inner
    match plain with
    | some (e, rest) => some (e.withNegated negated, rest)
    | none => do
      let rest ← token "(" s
      let (e, rest) ← readLogic fuel rest
      let rest ← token ")" rest
      some (e.withNegated false, rest)

def readMember : Nat → List Char → Option (Expr × List Char)
  | 0, _ => none
  | fuel + 1, s => do
    let (item, rest) ←
      match readTextual fuel s with
      | some r => some r
      | none => readFiltered fuel s
    let (negated, rest) :=
      match spacedWord "not" rest with
      | some rest => (true, rest)
      | none => (false, rest)
    let rest ← token "in" rest
    let (container, rest) ←
      match readTextual fuel rest with
      | some r => some r
      | none =>
        match readArray fuel rest with
        | some r => some r
        | none =>
          (readPath fuel (skip rest)).map fun r => (.ofTerm (.path (String.ofList r.1)), r.2)
    some (.ofTerm (.member item container negated), rest)

def readComparison : Nat → List Char → Option (Expr × List Char)
  | 0, _ => none
  | fuel + 1, s => do
    let (left, rest) ← readCompared fuel s
    match readCompareOp rest with
    | none => some (left, rest)
    | some (op, more) =>
      match readCompared fuel more with
      | none => some (left, rest)
      | some (right, more) => some (.ofTerm (.logic op left right), more)

def readCompared : Nat → List Char → Option (Expr × List Char)
  | 0, _ => none
  | fuel + 1, s =>
    match readTextual fuel s with
    | some r => some r
    | none => do
      let (first, rest) ← readFiltered fuel s
      let (more, rest) := readFilteredRest fuel rest
      some (joinMath first more, rest)

def readFilteredRest : Nat → List Char → List (MathOp × Expr) × List Char
  | 0, s => ([], s)
  | fuel + 1, s =>
    match readMathOp s with
    | none => ([], s)
    | some (op, rest) =>
      match readFiltered fuel rest with
      | none => ([], s)
      | some (e, rest) =>
        let (more, rest) := readFilteredRest fuel rest
        ((op, e) :: more, rest)

def readTextual : Nat → List Char → Option (Expr × List Char)
  | 0, _ => none
  | fuel + 1, s => do
    let (t, rest) ←
      match readConcat fuel s with
      | some r => some r
      | none => (readString (skip s)).map fun r => (Term.text (String.ofList r.1), r.2)
    let (filters, rest) := readFilters fuel rest
    some (.mk t false filters, rest)

def readConcat : Nat → List Char → Option (Term × List Char)
  | 0, _ => none
  | fuel + 1, s => do
    let (first, rest) ← readConcatPart fuel s
    let (more, rest) := readConcatRest fuel rest
    if more.isEmpty then none else some (.concat (first :: more), rest)

def readConcatRest : Nat → List Char → List Term × List Char
  | 0, s => ([], s)
  | fuel + 1, s =>
    match token "~" s with
    | none => ([], s)
    | some rest =>
      match readConcatPart fuel rest with
      | none => ([], s)
      | some (t, rest) =>
        let (more, rest) := readConcatRest fuel rest
        (t :: more, rest)

def readConcatPart : Nat → List Char → Option (Term × List Char)
  | 0, _ => none
  | fuel + 1, s =>
    let s := skip s
    match readCall fuel s with
    | some (c, rest) => some (.call c, rest)
    | none =>
      match readPoint s with
      | some (x, rest) => some (.real x, rest)
      | none =>
        match readWhole s with
        | some (digits, rest) => (wholeValue? digits).map fun n => (.integer n, rest)
        | none =>
          match readString s with
          | some (t, rest) => some (.text (String.ofList t), rest)
          | none => (readPath fuel s).map fun r => (.path (String.ofList r.1), r.2)

def readFiltered : Nat → List Char → Option (Expr × List Char)
  | 0, _ => none
  | fuel + 1, s => do
    let (e, rest) ← readMath fuel s
    let (filters, rest) := readFilters fuel rest
    some (.mk e.term e.negated filters, rest)

def readMath : Nat → List Char → Option (Expr × List Char)
  | 0, _ => none
  | fuel + 1, s => do
    let (first, rest) ← readOperand fuel s
    let (more, rest) := readMathRest fuel rest
    some (joinMath first more, rest)

def readMathRest : Nat → List Char → List (MathOp × Expr) × List Char
  | 0, s => ([], s)
  | fuel + 1, s =>
    match readMathOp s with
    | none => ([], s)
    | some (op, rest) =>
      match readOperand fuel rest with
      | none => ([], s)
      | some (e, rest) =>
        let (more, rest) := readMathRest fuel rest
        ((op, e) :: more, rest)

def readOperand : Nat → List Char → Option (Expr × List Char)
  | 0, _ => none
  | fuel + 1, s =>
    let inParentheses : Option (Expr × List Char) := do
      let rest ← token "(" s
      let (e, rest) ← readMath fuel rest
      let rest ← token ")" rest
      some (e, rest)
    match inParentheses with
    | some r => some r
    | none => (readTerm fuel (skip s)).map fun r => (.ofTerm r.1, r.2)

def readTerm : Nat → List Char → Option (Term × List Char)
  | 0, _ => none
  | fuel + 1, s =>
    match readBool s with
    | some (b, rest) => some (.bool b, rest)
    | none =>
      match readTest fuel true s with
      | some r => some r
      | none =>
        match readTest fuel false s with
        | some r => some r
        | none =>
          match readCall fuel s with
          | some (c, rest) => some (.call c, rest)
          | none =>
            match readPath fuel s with
            | some (p, rest) => some (.path (String.ofList p), rest)
            | none =>
              match readPoint s with
              | some (x, rest) => some (.real x, rest)
              | none => do
                let (digits, rest) ← readWhole s
                let n ← wholeValue? digits
                some (.integer n, rest)

def readTest : Nat → Bool → List Char → Option (Term × List Char)
  | 0, _, _ => none
  | fuel + 1, negated, s => do
    let (path, rest) ← readPath fuel s
    let rest ← token "is" rest
    let rest ← if negated then token "not" rest else some rest
    let (name, rest) ← readName (skip rest)
    let inParentheses : Option (List Expr × List Char) := do
      let more ← token "(" rest
      let (args, more) ← readTestArgs fuel more
      let more ← token ")" more
      some (args, more)
    let (args, rest) := inParentheses.getD ([], rest)
    some (.test (String.ofList path) (String.ofList name) negated args, rest)

def readTestArgs : Nat → List Char → Option (List Expr × List Char)
  | 0, _ => none
  | fuel + 1, s => do
    let (e, rest) ← readValue fuel s
    match token "," rest with
    | none => some ([e], rest)
    | some more =>
      match readTestArgs fuel more with
      | none => some ([e], rest)
      | some (es, more) => some (e :: es, more)

def readValue : Nat → List Char → Option (Expr × List Char)
  | 0, _ => none
  | fuel + 1, s =>
    match readLogic fuel s with
    | some r => some r
    | none => readArray fuel s

def readArray : Nat → List Char → Option (Expr × List Char)
  | 0, _ => none
  | fuel + 1, s => do
    let rest ← token "[" s
    let (items, rest) := readItems fuel rest
    let rest ← token "]" rest
    let (filters, rest) := readFilters fuel rest
    some (.mk (.array items) false filters, rest)

def readItems : Nat → List Char → List Expr × List Char
  | 0, s => ([], s)
  | fuel + 1, s =>
    match readLogicPart fuel s with
    | none => ([], s)
    | some (e, rest) =>
      match token "," rest with
      | none => ([e], rest)
      | some more =>
        let (es, more) := readItems fuel more
        (e :: es, more)

def readCall : Nat → List Char → Option (Call × List Char)
  | 0, _ => none
  | fuel + 1, s => do
    let (name, rest) ← readName s
    let rest ← token "(" rest
    let (args, rest) := (readArgs fuel rest).getD ([], rest)
    let rest ← token ")" rest
    some (.mk (String.ofList name) args, rest)

def readArgs : Nat → List Char → Option (List (String × Expr) × List Char)
  | 0, _ => none
  | fuel + 1, s => do
    let (name, rest) ← readName (skip s)
    let rest ← token "=" rest
    let (e, rest) ← readValue fuel rest
    let arg := (String.ofList name, e)
    match token "," rest with
    | none => some ([arg], rest)
    | some more =>
      match readArgs fuel more with
      | none => some ([arg], more)
      | some (args, more) => some (arg :: args, more)

def readFilters : Nat → List Char → List Call × List Char
  | 0, s => ([], s)
  | fuel + 1, s =>
    match token "|" s with
    | none => ([], s)
    | some rest =>
      match readFilterCall fuel (skip rest) with
      | none => ([], s)
      | some (c, rest) =>
        let (more, rest) := readFilters fuel rest
        (c :: more, rest)

def readFilterCall : Nat → List Char → Option (Call × List Char)
  | 0, _ => none
  | fuel + 1, s =>
    match readCall fuel s with
    | some r => some r
    | none => (readName s).map fun r => (.mk (String.ofList r.1) [], r.2)

end

def readClose (mark : String) (s : List Char) : Option (Bool × List Char) :=
  match token ("-" ++ mark) s with
  | some rest => some (true, rest)
  | none => (token mark s).map fun rest => (false, rest)

def readOpen (mark : String) (s : List Char) : Option (List Char) :=
  (afterStart mark.toList s).map fun rest =>
    match rest with
    | '-' :: more => more
    | more => more

def atTag : List Char → Bool
  | '\x7b' :: c :: _ => c == '\x7b' || c == '%' || c == '#'
  | _ => false

def hasDash : List Char → Bool
  | '\x7b' :: _ :: c :: _ => c == '-'
  | _ => false

def readWordTag (word : String) (s : List Char) : Option (Bool × List Char) := do
  let rest ← readOpen "\x7b%" s
  let rest ← token word rest
  readClose "%\x7d" rest

def readText : List Char → List Char × List Char
  | [] => ([], [])
  | c :: rest =>
    if atTag (c :: rest) then ([], c :: rest)
    else
      let (text, rest) := readText rest
      (c :: text, rest)

def readUntil (mark : List Char → Option (Bool × List Char)) : List Char → Option (List Char × Bool × List Char)
  | [] => none
  | c :: rest =>
    match mark (c :: rest) with
    | some (dash, more) => some ([], dash, more)
    | none => (readUntil mark rest).map fun r => (c :: r.1, r.2.1, r.2.2)

structure Place where
  -- Inside a loop, where it may be left.
  inLoop : Bool
  -- Directly in the body of a loop, whose `else` leaves the text before it alone.
  loopBody : Bool
  tidy : Bool

def Place.takesBefore (p : Place) (s : List Char) : Bool :=
  p.tidy && hasDash s && !(p.loopBody && (readWordTag "else" s).isSome)

def textNode (s : List Char) : List Node :=
  if s.isEmpty then [] else [.text s]

def trimLast : List Node → List Node
  | [] => []
  | [.text s] => textNode (trimEnd s)
  | [n] => [n]
  | n :: m :: rest => n :: trimLast (m :: rest)

def readAssign (fuel : Nat) (word : String) (everywhere : Bool) (s : List Char) :
    Option (Node × Bool × List Char) := do
  let rest ← readOpen "\x7b%" s
  let rest ← token word rest
  let (name, rest) ← readName (skip rest)
  let rest ← token "=" rest
  let (e, rest) ← readValue fuel rest
  let (dash, rest) ← readClose "%\x7d" rest
  some (.assign (String.ofList name) everywhere e, dash, rest)

def readCondition (fuel : Nat) (word : String) (s : List Char) :
    Option (Expr × Bool × List Char) := do
  let rest ← readOpen "\x7b%" s
  let rest ← token word rest
  let (e, rest) ← readLogic fuel rest
  let (dash, rest) ← readClose "%\x7d" rest
  some (e, dash, rest)

def readRaw (tidy : Bool) (s : List Char) : Option (List Node × Bool × List Char) := do
  let (dash, rest) ← readWordTag "raw" s
  let (text, last, more) ← readUntil (readWordTag "endraw") rest
  let text := if tidy && dash then trimStart text else text
  let text := if tidy && hasDash (rest.drop text.length) then trimEnd text else text
  some (textNode text, last, more)

mutual

-- `dash` tells whether the tag before takes blanks.
def readNodes : Nat → Place → Bool → List Char → List Node × List Char
  | 0, _, _, s => ([], s)
  | fuel + 1, place, dash, s =>
    match s with
    | [] => ([], [])
    | c :: more =>
      if atTag (c :: more) then
        match readNode fuel place (c :: more) with
        | none => ([], c :: more)
        | some (nodes, dash, rest) =>
          let (others, rest) := readNodes fuel place dash rest
          (nodes ++ others, rest)
      else
        let (text, rest) := readText (c :: more)
        let text := if place.tidy && dash then trimStart text else text
        let text := if place.takesBefore rest then trimEnd text else text
        let (others, rest) := readNodes fuel place false rest
        (textNode text ++ others, rest)

def readNode : Nat → Place → List Char → Option (List Node × Bool × List Char)
  | 0, _, _ => none
  | fuel + 1, place, s =>
    match s with
    | '\x7b' :: '#' :: rest => do
      let rest :=
        match rest with
        | '-' :: more => more
        | more => more
      let atEnd (s : List Char) : Option (Bool × List Char) :=
        match s with
        | '-' :: '#' :: '\x7d' :: more => some (true, more)
        | '#' :: '\x7d' :: more => some (false, more)
        | _ => none
      let (_, dash, rest) ← readUntil atEnd rest
      some ([], dash, rest)
    | '\x7b' :: '\x7b' :: _ => do
      let rest ← readOpen "\x7b\x7b" s
      let (e, rest) ← readValue fuel rest
      let (dash, rest) ← readClose "\x7d\x7d" rest
      some ([.value e], dash, rest)
    | _ => readBlock fuel place s

def readBlock : Nat → Place → List Char → Option (List Node × Bool × List Char)
  | 0, _, _ => none
  | fuel + 1, place, s =>
    match readAssign fuel "set" false s with
    | some (n, dash, rest) => some ([n], dash, rest)
    | none =>
      match readAssign fuel "set_global" true s with
      | some (n, dash, rest) => some ([n], dash, rest)
      | none =>
        match readChoice fuel place s with
        | some r => some r
        | none =>
          match readLoop fuel place s with
          | some r => some r
          | none =>
            match readFilteredPart fuel place s with
            | some r => some r
            | none =>
              match readRaw place.tidy s with
              | some r => some r
              | none =>
                if !place.inLoop then none
                else
                  match readWordTag "break" s with
                  | some (dash, rest) => some ([.leave], dash, rest)
                  | none => (readWordTag "continue" s).map fun r => ([.next], r.1, r.2)

def readChoice : Nat → Place → List Char → Option (List Node × Bool × List Char)
  | 0, _, _ => none
  | fuel + 1, place, s => do
    let inner : Place := { place with loopBody := false }
    let (e, dash, rest) ← readCondition fuel "if" s
    let (body, rest) := readNodes fuel inner dash rest
    let (cases, rest) := readCases fuel inner rest
    let (otherwise, rest) :=
      match readWordTag "else" rest with
      | some (dash, more) => readNodes fuel inner dash more
      | none => ([], rest)
    let (dash, rest) ← readWordTag "endif" rest
    some ([.choice ((e, body) :: cases) otherwise], dash, rest)

def readCases : Nat → Place → List Char → List (Expr × List Node) × List Char
  | 0, _, s => ([], s)
  | fuel + 1, place, s =>
    match readCondition fuel "elif" s with
    | none => ([], s)
    | some (e, dash, rest) =>
      let (body, rest) := readNodes fuel place dash rest
      let (cases, rest) := readCases fuel place rest
      ((e, body) :: cases, rest)

def readLoop : Nat → Place → List Char → Option (List Node × Bool × List Char)
  | 0, _, _ => none
  | fuel + 1, place, s => do
    let rest ← readOpen "\x7b%" s
    let rest ← token "for" rest
    let (first, rest) ← readName (skip rest)
    let (key, name, rest) ←
      match token "," rest with
      | none => some (none, first, rest)
      | some more =>
        (readName (skip more)).map fun r => (some (String.ofList first), r.1, r.2)
    let rest ← token "in" rest
    let (container, rest) ←
      match readFiltered fuel rest with
      | some r => some r
      | none => readArray fuel rest
    let (dash, rest) ← readClose "%\x7d" rest
    let (body, rest) := readNodes fuel ⟨true, true, place.tidy⟩ dash rest
    let (whenEmpty, rest) :=
      match readWordTag "else" rest with
      | some (_, more) =>
        let (nodes, more) := readNodes fuel ⟨true, true, false⟩ false more
        (some nodes, more)
      | none => (none, rest)
    let body := if whenEmpty.isSome && place.tidy && hasDash rest then trimLast body else body
    let (dash, rest) ← readWordTag "endfor" rest
    some ([.loop key (String.ofList name) container body whenEmpty], dash, rest)

def readFilteredPart : Nat → Place → List Char → Option (List Node × Bool × List Char)
  | 0, _, _ => none
  | fuel + 1, place, s => do
    let rest ← readOpen "\x7b%" s
    let rest ← token "filter" rest
    let (call, rest) ← readFilterCall fuel (skip rest)
    let (dash, rest) ← readClose "%\x7d" rest
    let (body, rest) := readNodes fuel ⟨false, false, place.tidy⟩ dash rest
    let (dash, rest) ← readWordTag "endfilter" rest
    some ([.filtered call body], dash, rest)

end

def parse? (s : List Char) : Option (List Node) :=
  match readNodes (24 * s.length + 48) ⟨false, false, true⟩ false s with
  | (nodes, []) => some nodes
  | _ => none

end SqlBench.Template
