import SqlBench.Shell.Program
import SqlBench.Shell.Reader

set_option autoImplicit false

namespace SqlBench.Shell

abbrev Inner := List Char → State → List Char × State

def isSeparator (c : Char) : Bool :=
  c == ' ' || c == '\t' || c == '\n'

def Piece.expand (inner : Inner) (s : State) : Piece → (List Char × Bool) × State
  | .literal text => ((text, false), s)
  | .parameter name fallback isQuoted =>
    let value := (s.lookup name).getD []
    ((if value.isEmpty then fallback.getD [] else value, !isQuoted), s)
  | .output command isQuoted =>
    let (text, s) := inner command s
    (((text.reverse.dropWhile fun c => c == '\n').reverse, !isQuoted), s)

structure Fields where
  done : List (List Char)
  current : Option (List Char)

namespace Fields

def close (f : Fields) : Fields :=
  match f.current with
  | some text => ⟨f.done ++ [text], none⟩
  | none => f

def add (f : Fields) (text : List Char) : Fields :=
  ⟨f.done, some (f.current.getD [] ++ text)⟩

def addApart (f : Fields) (text : List Char) : Fields :=
  text.foldl (fun f c => if isSeparator c then f.close else f.add [c]) f

end Fields

def fieldsOf (inner : Inner) (w : Word) (s : State) : List (List Char) × State :=
  let (f, s) := w.foldl
    (fun (f, s) piece =>
      let ((text, isApart), s) := piece.expand inner s
      (if isApart then f.addApart text else f.add text, s))
    ((⟨[], none⟩ : Fields), s)
  (f.close.done, s)

def allFields (inner : Inner) (words : List Word) (s : State) : List (List Char) × State :=
  words.foldl
    (fun (found, s) w =>
      let (more, s) := fieldsOf inner w s
      (found ++ more, s))
    ([], s)

def textOf (inner : Inner) (w : Word) (s : State) : List Char × State :=
  w.foldl
    (fun (text, s) piece =>
      let ((more, _), s) := piece.expand inner s
      (text ++ more, s))
    ([], s)

def sinkOf (path : List Char) : Sink :=
  if path = "/dev/null".toList then .nowhere else .file (String.ofList path)

def Streams.lead (streams : Streams) (stream : Nat) (sink : Sink) : Streams :=
  if stream = 1 then { streams with output := sink }
  else if stream = 2 then { streams with errors := sink }
  else streams

def redirect (inner : Inner) (found : List Redirection) (streams : Streams) (s : State) :
    Streams × State :=
  found.foldl
    (fun (streams, s) r =>
      match r with
      | .append stream target =>
        let (path, s) := textOf inner target s
        (streams.lead stream (sinkOf path), s.write (sinkOf path) [])
      | .overwrite stream target =>
        let (path, s) := textOf inner target s
        let emptied :=
          match sinkOf path with
          | .file p => { s with files := s.files.insert p [] }
          | _ => s
        (streams.lead stream (sinkOf path), emptied)
      | .input source =>
        let (path, s) := textOf inner source s
        (streams, { s with input := (s.files.get? (String.ofList path)).getD [] })
      | .same stream other =>
        (streams.lead stream (if other = 1 then streams.output else streams.errors), s))
    (streams, s)

def assignAll (inner : Inner) (assignments : List (String × Word)) (isExported : Bool)
    (s : State) : State :=
  assignments.foldl
    (fun s a =>
      let (value, s) := textOf inner a.2 s
      if isExported then { s with bindings := s.bindings.insert a.1 ⟨value, true⟩ }
      else s.assign a.1 value)
    s

def Simple.run (inner : Inner) (c : Simple) (streams : Streams) (s : State) : State × Flow :=
  let input := s.input
  let (fields, s) := allFields inner c.words s
  match fields with
  | [] =>
    let s := assignAll inner c.assignments false (if c.words.isEmpty then s.ended 0 else s)
    let (_, s) := redirect inner c.redirections streams s
    (s, .next)
  | name :: arguments =>
    let before := s.bindings
    let isForProgram := !c.assignments.isEmpty
    let s := assignAll inner c.assignments true s
    let (streams, s) := redirect inner c.redirections streams s
    let (s, flow) := Program.run (String.ofList name) ⟨arguments, streams⟩ s
    let s := if isForProgram then { s with bindings := before } else s
    let isRedirected := c.redirections.any fun
      | .input _ => true
      | _ => false
    (if isRedirected then { s with input := input } else s, flow)

-- The shell behind one of its own: files, what was read, and the exit code stay.
def leave (outer : State) (inside : State) (flow : Flow) : State × Flow :=
  let kept := { outer with files := inside.files, input := inside.input }
  match flow with
  | .next => ({ kept with written := inside.written }.ended inside.status, .next)
  | .exit code => ({ kept with written := inside.written }.ended code, .next)
  | .killed => (kept, .killed)

-- Ends a strict shell whose command failed, unless its failure is checked.
def strictly (isChecked : Bool) (answer : State × Flow) : State × Flow :=
  match answer with
  | (s, .next) =>
    if s.isStrict && !isChecked && s.status != 0 then (s, .exit s.status) else (s, .next)
  | answer => answer

def Command.run (inner : Inner) (isChecked : Bool) (streams : Streams) :
    Command → State → State × Flow
  | .nothing, s => (s.ended 0, .next)
  | .simple c, s => strictly isChecked (c.run inner streams s)
  | .pipe a b, s =>
    let left := { s with written := [] }
    let (done, flow) := a.run inner isChecked { streams with output := .output } left
    match flow with
    | .killed => (done, .killed)
    | _ =>
      let right := { s with files := done.files, input := done.written }
      let (last, flow) := b.run inner isChecked streams right
      let (s', flow) := leave s last flow
      strictly isChecked ({ s' with input := done.input }, flow)
  | .negated a, s =>
    match a.run inner true streams s with
    | (s, .next) => (s.ended (if s.status = 0 then 1 else 0), .next)
    | answer => answer
  | .both a b, s =>
    match a.run inner true streams s with
    | (s, .next) => if s.status = 0 then b.run inner isChecked streams s else (s, .next)
    | answer => answer
  | .either a b, s =>
    match a.run inner true streams s with
    | (s, .next) => if s.status = 0 then (s, .next) else b.run inner isChecked streams s
    | answer => answer
  | .sequence a b, s =>
    match a.run inner isChecked streams s with
    | (s, .next) => b.run inner isChecked streams s
    | answer => answer
  | .group isIsolated body redirections, s =>
    let input := s.input
    let (streams, s) := redirect inner redirections streams s
    let (done, flow) := body.run inner isChecked streams s
    let answer := if isIsolated then leave s done flow else (done, flow)
    let isRedirected := redirections.any fun
      | .input _ => true
      | _ => false
    if isRedirected then ({ answer.1 with input := input }, answer.2) else answer
  | .branch condition yes no redirections, s =>
    let (streams, s) := redirect inner redirections streams s
    match condition.run inner true streams s with
    | (s, .next) =>
      if s.status = 0 then yes.run inner isChecked streams s
      else no.run inner isChecked streams s
    | answer => answer

def runLines (inner : Inner) (streams : Streams) : List Command → State → State × Flow
  | [], s => (s, .next)
  | c :: rest, s =>
    match c.run inner false streams s with
    | (s, .next) => runLines inner streams rest s
    | answer => answer

def runText : Nat → Streams → List Char → State → State × Flow
  | 0, _, _, s => (s, .next)
  | depth + 1, streams, text, s =>
    let inner : Inner := fun command s =>
      let apart := { s with written := [] }
      let (done, flow) := runText depth { streams with output := .output } command apart
      let (left, _) := leave s done flow
      (done.written, { left with written := s.written })
    let (lines, isWhole) := read text
    match runLines inner streams lines s with
    | (s, .next) => if isWhole then (s, .next) else (s, .exit 2)
    | answer => answer

def standardPath : String := "/usr/local/sbin:/usr/local/bin:/usr/sbin:/usr/bin:/sbin:/bin"

def hasNul (s : String) : Bool :=
  s.toList.any fun c => c.toNat == 0

-- Runs a command with an environment and some files: the exit code, -1 behind a signal, and the
-- files behind it. The shell itself must be found.
def run (command : String) (environment : Attributes) (files : Files) :
    Except String (Int × Files) :=
  let path := (environment.get? "PATH").getD standardPath
  if hasNul command || environment.toList.any fun e => hasNul e.1 || hasNul e.2 then
    .error "nul byte found in provided data"
  else if !Program.isFound path.toList then .error "No such file or directory (os error 2)"
  else
    let bindings := (Dict.empty.insert "PATH" ⟨path.toList, true⟩).insertMany
      (environment.toList.map fun e => (e.1, (⟨e.2.toList, true⟩ : Variable)))
    let s : State := ⟨bindings, files, 0, false, [], []⟩
    match runText (command.length + 1) ⟨.output, .nowhere⟩ command.toList s with
    | (s, .next) => .ok (Int.ofNat s.status, s.files)
    | (s, .exit code) => .ok (Int.ofNat code, s.files)
    | (s, .killed) => .ok (-1, s.files)

end SqlBench.Shell
