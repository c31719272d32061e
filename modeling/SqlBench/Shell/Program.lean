import SqlBench.Shell.Expression

set_option autoImplicit false

namespace SqlBench.Shell

structure Invocation where
  arguments : List (List Char)
  streams : Streams

namespace Program

def countWords (s : List Char) : Nat :=
  (s.foldl
    (fun (count, isInside) c =>
      let isBlank := c == ' ' || c == '\n' || c == '\t'
      (if !isBlank && !isInside then count + 1 else count, !isBlank))
    (0, false)).1

def textLines (s : List Char) : List (List Char) :=
  match (Text.pieces '\n' s).reverse with
  | [] :: front => front.reverse
  | parts => parts.reverse

def unescape : List Char → List Char
  | '\\' :: 'n' :: rest => '\n' :: unescape rest
  | '\\' :: 't' :: rest => '\t' :: unescape rest
  | '\\' :: 'r' :: rest => '\r' :: unescape rest
  | '\\' :: '\\' :: rest => '\\' :: unescape rest
  | '\\' :: '"' :: rest => '"' :: unescape rest
  | '\\' :: '\'' :: rest => '\'' :: unescape rest
  | c :: rest => c :: unescape rest
  | [] => []

-- Puts arguments into a format; what is left of them follows. Missing arguments are empty.
def format : List Char → List (List Char) → List Char × List (List Char)
  | '%' :: '%' :: rest, args =>
    let more := format rest args
    ('%' :: more.1, more.2)
  | '%' :: c :: rest, args =>
    let shown : List Char :=
      if c = 'd' ∨ c = 'i' then (toString ((number? (args.headD [])).getD 0)).toList
      else if c = 'b' then unescape (args.headD [])
      else args.headD []
    let more := format rest args.tail
    (shown ++ more.1, more.2)
  | c :: rest, args =>
    let more := format rest args
    (c :: more.1, more.2)
  | [], args => ([], args)

def formatAll : Nat → List Char → List (List Char) → List Char
  | 0, _, _ => []
  | fuel + 1, f, args =>
    let (text, rest) := format f args
    if rest.isEmpty || rest.length = args.length then text else text ++ formatAll fuel f rest

def echoOptions : List (List Char) → Bool × Bool × List (List Char)
  | ['-', 'n'] :: rest =>
    let more := echoOptions rest
    (false, more.2.1, more.2.2)
  | ['-', 'e'] :: rest =>
    let more := echoOptions rest
    (more.1, true, more.2.2)
  | ['-', 'E'] :: rest =>
    let more := echoOptions rest
    (more.1, false, more.2.2)
  | rest => (true, false, rest)

def echo (i : Invocation) (s : State) : State :=
  let (endsLine, readsEscapes, rest) := echoOptions i.arguments
  let text := Text.joinWith [' '] rest
  let text := if readsEscapes then unescape text else text
  (s.write i.streams.output (if endsLine then text ++ ['\n'] else text)).ended 0

def printf (i : Invocation) (s : State) : State :=
  match i.arguments with
  | [] => s.ended 2
  | f :: args =>
    (s.write i.streams.output (formatAll (args.length + 1) (unescape f) args)).ended 0

def cat (i : Invocation) (s : State) : State :=
  let texts := i.arguments.filter fun a => a != ['-']
  if texts.isEmpty then
    ({ s with input := [] }.write i.streams.output s.input).ended 0
  else
    texts.foldl
      (fun s path =>
        match s.files.get? (String.ofList path) with
        | some text => s.write i.streams.output text
        | none => s.ended 1)
      (s.ended 0)

def options (arguments : List (List Char)) : List Char × List (List Char) :=
  let isOption (a : List Char) : Bool := a.head? == some '-' && 1 < a.length
  ((arguments.filter isOption).flatMap List.tail, arguments.filter fun a => !isOption a)

def inputOf (paths : List (List Char)) (s : State) : List Char × State :=
  if paths.isEmpty then (s.input, { s with input := [] })
  else (paths.flatMap fun p => (s.files.get? (String.ofList p)).getD [], s)

def wc (i : Invocation) (s : State) : State :=
  let (letters, paths) := options i.arguments
  let (text, s) := inputOf paths s
  let lines := text.countP fun c => c == '\n'
  let octets := (String.ofList text).utf8ByteSize
  let counts :=
    (if letters.contains 'l' then [lines] else []) ++
      (if letters.contains 'w' then [countWords text] else []) ++
      (if letters.contains 'c' then [octets] else [])
  let counts := if letters.isEmpty then [lines, countWords text, octets] else counts
  let shown := Text.joinWith [' '] (counts.map fun n => (toString n).toList)
  let names := paths.flatMap fun p => ' ' :: p
  (s.write i.streams.output (shown ++ names ++ ['\n'])).ended 0

def grep (i : Invocation) (s : State) : State :=
  let (letters, rest) := options i.arguments
  match rest with
  | [] => s.ended 2
  | pattern :: paths =>
    let (text, s) := inputOf paths s
    let isWanted (line : List Char) : Bool :=
      let found :=
        if letters.contains 'F' then
          (Pattern.tails line).any fun t => pattern.isPrefixOf t
        else Pattern.isMatch pattern line
      found != letters.contains 'v'
    let found := (textLines text).filter isWanted
    let shown :=
      if letters.contains 'q' then []
      else if letters.contains 'c' then (toString found.length).toList ++ ['\n']
      else found.flatMap fun line => line ++ ['\n']
    (s.write i.streams.output shown).ended (if found.isEmpty then 1 else 0)

def environment (i : Invocation) (s : State) : State :=
  let shown := s.bindings.toList.flatMap fun e =>
    if e.2.isExported then e.1.toList ++ '=' :: e.2.value ++ ['\n'] else []
  (s.write i.streams.output shown).ended 0

def test (operands : List (List Char)) (s : State) : State :=
  match Condition.evaluate? s.files operands with
  | some true => s.ended 0
  | some false => s.ended 1
  | none => s.ended 2

def export_ (arguments : List (List Char)) (s : State) : State :=
  arguments.foldl
    (fun s a =>
      let (name, value) := (Text.cutAt '=' a).getD (a, (s.lookup (String.ofList a)).getD [])
      { s with bindings := s.bindings.insert (String.ofList name) ⟨value, true⟩ })
    (s.ended 0)

def harmless : List String :=
  ["0", "CHLD", "CONT", "URG", "WINCH", "17", "18", "23", "28"]

-- Sends a signal to the shell itself; other processes are not there.
def kill (arguments : List (List Char)) (s : State) : State × Flow :=
  let (signal, targets) : String × List (List Char) :=
    match arguments with
    | ['-', 's'] :: name :: rest => (String.ofList name, rest)
    | ('-' :: name) :: rest => (String.ofList name, rest)
    | rest => ("TERM", rest)
  if targets = [['1']] then
    if harmless.contains signal || harmless.contains (signal.drop 3).toString then
      (s.ended 0, .next)
    else (s, .killed)
  else (s.ended 1, .next)

def set_ (arguments : List (List Char)) (s : State) : State :=
  arguments.foldl
    (fun s a =>
      match a with
      | '-' :: letters => if letters.contains 'e' then { s with isStrict := true } else s
      | '+' :: letters => if letters.contains 'e' then { s with isStrict := false } else s
      | _ => s)
    (s.ended 0)

def exit (arguments : List (List Char)) (s : State) : State × Flow :=
  match arguments with
  | [] => (s, .exit s.status)
  | [code] =>
    match number? code with
    | some n => (s, .exit (n.emod 256).toNat)
    | none => (s, .exit 2)
  | code :: _ => if (number? code).isSome then (s.ended 1, .next) else (s, .exit 2)

def homes : List String :=
  ["/bin", "/usr/bin", "/bin/", "/usr/bin/"]

def isFound (path : List Char) : Bool :=
  (Text.pieces ':' path).any fun dir => homes.contains (String.ofList dir)

def builtin? (name : String) (i : Invocation) (s : State) : Option (State × Flow) :=
  match name with
  | "echo" => some (echo i s, .next)
  | "printf" => some (printf i s, .next)
  | "true" => some (s.ended 0, .next)
  | ":" => some (s.ended 0, .next)
  | "false" => some (s.ended 1, .next)
  | "test" => some (test i.arguments s, .next)
  | "[" =>
    some
      (if i.arguments.getLast? = some [']'] then test i.arguments.dropLast s else s.ended 2, .next)
  | "[[" =>
    some
      (if i.arguments.getLast? = some [']', ']'] then test i.arguments.dropLast s else s.ended 2,
        .next)
  | "export" => some (export_ i.arguments s, .next)
  | "unset" =>
    let isKept (e : String × Variable) : Bool := !i.arguments.contains e.1.toList
    some ({ s with bindings := Dict.ofList (s.bindings.toList.filter isKept) }.ended 0, .next)
  | "set" => some (set_ i.arguments s, .next)
  | "kill" => some (kill i.arguments s)
  | "exit" => some (exit i.arguments s)
  | _ => none

def system? (name : String) (i : Invocation) (s : State) : Option State :=
  match name with
  | "cat" => some (cat i s)
  | "wc" => some (wc i s)
  | "grep" => some (grep i s)
  | "env" => some (environment i s)
  | "printenv" =>
    match i.arguments with
    | [] => some (environment i s)
    | key :: _ =>
      match (s.bindings.get? (String.ofList key)).filter fun v => v.isExported with
      | some v => some ((s.write i.streams.output (v.value ++ ['\n'])).ended 0)
      | none => some (s.ended 1)
  | "sync" => some (s.ended 0)
  | "sleep" => some (s.ended 0)
  | "true" => some (s.ended 0)
  | "false" => some (s.ended 1)
  | "echo" => some (echo i s)
  | "touch" => some (i.arguments.foldl (fun s p => s.write (.file (String.ofList p)) []) (s.ended 0))
  | "rm" =>
    let isKept (e : String × List Char) : Bool := !i.arguments.contains e.1.toList
    some ({ s with files := Dict.ofList (s.files.toList.filter isKept) }.ended 0)
  | _ => none

def inHome? (name : String) : Option String :=
  homes.findSome? fun dir =>
    (Text.afterStart (dir ++ "/").toList name.toList).map String.ofList

def run (name : String) (i : Invocation) (s : State) : State × Flow :=
  match builtin? name i s with
  | some answer => answer
  | none =>
    let program := if isFound ((s.lookup "PATH").getD []) then some name else none
    match ((inHome? name).or program).bind fun n => system? n i s with
    | some s => (s, .next)
    | none => (s.ended 127, .next)

end Program

end SqlBench.Shell
