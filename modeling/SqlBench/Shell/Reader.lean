import SqlBench.Shell.Token

set_option autoImplicit false

namespace SqlBench.Shell

namespace Reader

def reserved : List String :=
  ["if", "then", "elif", "else", "fi", "\x7b", "\x7d", "!", "for", "while", "until", "do", "done",
    "case", "esac", "function"]

def keyword? (tokens : List Token) : Option String :=
  match tokens with
  | .word w :: _ => (Token.plain? w).filter fun s => reserved.contains s
  | _ => none

def skipLines : List Token → List Token
  | .newline :: rest => skipLines rest
  | rest => rest

def assignment? (w : Word) : Option (String × Word) :=
  let isPlain : Piece → Bool
    | .literal [c] => c != '='
    | _ => false
  let name := w.takeWhile isPlain
  match w.drop name.length, Token.plain? name with
  | .literal ['='] :: value, some n =>
    match n.toList with
    | c :: rest =>
      if Token.startsName c && rest.all Token.isInName then some (n, value) else none
    | [] => none
  | _, _ => none

def redirection? (tokens : List Token) : Option (List Redirection × List Token) :=
  match tokens with
  | .operator op stream :: .word target :: rest =>
    match op with
    | ">>" => some ([.append (stream.getD 1) target], rest)
    | ">" => some ([.overwrite (stream.getD 1) target], rest)
    | ">|" => some ([.overwrite (stream.getD 1) target], rest)
    | "<" => some ([.input target], rest)
    | "&>" => some ([.overwrite 1 target, .same 2 1], rest)
    | "&>>" => some ([.append 1 target, .same 2 1], rest)
    | ">&" =>
      match Token.plain? target with
      | some "1" => some ([.same (stream.getD 1) 1], rest)
      | some "2" => some ([.same (stream.getD 1) 2], rest)
      | _ => some ([.overwrite 1 target, .same 2 1], rest)
    | _ => none
  | _ => none

def startsRedirection (tokens : List Token) : Bool :=
  match tokens with
  | .operator op _ :: _ => Token.isRedirection op || op == "&>" || op == "&>>"
  | _ => false

def simpleRest : Nat → Simple → List Token → Option (Simple × List Token)
  | 0, _, _ => none
  | fuel + 1, s, tokens =>
    if startsRedirection tokens then
      match redirection? tokens with
      | some (found, rest) =>
        simpleRest fuel { s with redirections := s.redirections ++ found } rest
      | none => none
    else
      match tokens with
      | .word w :: rest =>
        match (if s.words.isEmpty then assignment? w else none) with
        | some a => simpleRest fuel { s with assignments := s.assignments ++ [a] } rest
        | none => simpleRest fuel { s with words := s.words ++ [w] } rest
      | _ => some (s, tokens)

def redirections : Nat → List Token → Option (List Redirection × List Token)
  | 0, _ => none
  | fuel + 1, tokens =>
    if startsRedirection tokens then
      match redirection? tokens with
      | some (found, rest) =>
        (redirections fuel rest).map fun p => (found ++ p.1, p.2)
      | none => none
    else some ([], tokens)

def endsList (tokens : List Token) : Bool :=
  match tokens with
  | [] => true
  | .operator ")" _ :: _ => true
  | tokens =>
    match keyword? tokens with
    | some k => k == "then" || k == "elif" || k == "else" || k == "fi" || k == "\x7d"
    | none => false

def expect (word : String) (tokens : List Token) : Option (List Token) :=
  if keyword? tokens = some word then some tokens.tail else none

mutual

def command : Nat → List Token → Option (Command × List Token)
  | 0, _ => none
  | fuel + 1, tokens =>
    match keyword? tokens, tokens with
    | some "\x7b", _ :: rest => do
      let (body, rest) ← list fuel rest
      let rest ← expect "\x7d" rest
      let (found, rest) ← redirections (rest.length + 1) rest
      pure (.group false body found, rest)
    | some "if", _ :: rest => branch fuel rest
    | some _, _ => none
    | none, .operator "(" _ :: rest => do
      let (body, rest) ← list fuel rest
      match rest with
      | .operator ")" _ :: rest =>
        let (found, rest) ← redirections (rest.length + 1) rest
        pure (.group true body found, rest)
      | _ => none
    | none, tokens => do
      let (s, rest) ← simpleRest (tokens.length + 1) ⟨[], [], []⟩ tokens
      if s.words.isEmpty && s.assignments.isEmpty && s.redirections.isEmpty then none
      else pure (.simple s, rest)

def branch : Nat → List Token → Option (Command × List Token)
  | 0, _ => none
  | fuel + 1, tokens => do
    let (condition, rest) ← list fuel tokens
    let rest ← expect "then" rest
    let (yes, rest) ← list fuel rest
    match keyword? rest with
    | some "elif" => do
      let (no, rest) ← branch fuel rest.tail
      pure (.branch condition yes no [], rest)
    | some "else" => do
      let (no, rest) ← list fuel rest.tail
      let rest ← expect "fi" rest
      let (found, rest) ← redirections (rest.length + 1) rest
      pure (.branch condition yes no found, rest)
    | some "fi" => do
      let (found, rest) ← redirections (rest.length + 1) rest.tail
      pure (.branch condition yes .nothing found, rest)
    | _ => none

def pipeline : Nat → List Token → Option (Command × List Token)
  | 0, _ => none
  | fuel + 1, tokens =>
    if keyword? tokens = some "!" then
      (pipeline fuel tokens.tail).map fun p => (.negated p.1, p.2)
    else do
      let (first, rest) ← command fuel tokens
      match rest with
      | .operator "|" _ :: rest => do
        let (second, rest) ← pipeline fuel (skipLines rest)
        pure (.pipe first second, rest)
      | rest => pure (first, rest)

def chained : Nat → Command → List Token → Option (Command × List Token)
  | 0, _, _ => none
  | fuel + 1, first, tokens =>
    match tokens with
    | .operator "&&" _ :: rest => do
      let (second, rest) ← pipeline fuel (skipLines rest)
      chained fuel (.both first second) rest
    | .operator "||" _ :: rest => do
      let (second, rest) ← pipeline fuel (skipLines rest)
      chained fuel (.either first second) rest
    | rest => some (first, rest)

def line : Nat → List Token → Option (Command × List Token)
  | 0, _ => none
  | fuel + 1, tokens => do
    let (first, rest) ← pipeline fuel tokens
    let (first, rest) ← chained fuel first rest
    match rest with
    | .operator ";" _ :: rest =>
      match rest with
      | .newline :: _ => pure (first, rest)
      | _ =>
        if endsList rest then pure (first, rest)
        else do
          let (second, rest) ← line fuel rest
          pure (.sequence first second, rest)
    | .operator "&" _ :: rest =>
      let apart : Command := .either (.group true first []) .nothing
      match rest with
      | .newline :: _ => pure (apart, rest)
      | _ =>
        if endsList rest then pure (apart, rest)
        else do
          let (second, rest) ← line fuel rest
          pure (.sequence apart second, rest)
    | rest => pure (first, rest)

def list : Nat → List Token → Option (Command × List Token)
  | 0, _ => none
  | fuel + 1, tokens => do
    let (first, rest) ← line fuel (skipLines tokens)
    match rest with
    | .newline :: rest =>
      let rest := skipLines rest
      if endsList rest then pure (first, rest)
      else do
        let (second, rest) ← list fuel rest
        pure (.sequence first second, rest)
    | rest => pure (first, rest)

end

def lines : Nat → List Token → List Command × Bool
  | 0, tokens => ([], tokens.isEmpty)
  | fuel + 1, tokens =>
    match skipLines tokens with
    | [] => ([], true)
    | tokens =>
      match line (8 * tokens.length + 8) tokens with
      | some (c, []) => ([c], true)
      | some (c, .newline :: rest) =>
        let more := lines fuel rest
        (c :: more.1, more.2)
      | _ => ([], false)

end Reader

-- Reads a text: the commands of its lines up to the first fault, and whether there is none. A fault
-- in the tokens of a line leaves out that line and those behind.
def read (text : List Char) : List Command × Bool :=
  let (tokens, isWhole) := Token.scan (text.length + 1) text
  if isWhole then Reader.lines (tokens.length + 1) tokens
  else
    let before := (tokens.reverse.dropWhile fun t => t != .newline).reverse
    ((Reader.lines (before.length + 1) before).1, false)

end SqlBench.Shell
