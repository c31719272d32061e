import SqlBench.Dict
import SqlBench.Shell.Syntax

set_option autoImplicit false

namespace SqlBench.Shell

abbrev Files := Dict (List Char)

def Files.empty : Files := Dict.empty

structure Variable where
  value : List Char
  isExported : Bool

inductive Sink where
  | output
  | nowhere
  | file (path : String)
  deriving DecidableEq, Repr

structure Streams where
  output : Sink
  errors : Sink

structure State where
  bindings : Dict Variable
  files : Files
  status : Nat
  isStrict : Bool
  input : List Char
  written : List Char

inductive Flow where
  | next
  | exit (code : Nat)
  | killed
  deriving DecidableEq, Repr

namespace State

def lookup (s : State) (name : String) : Option (List Char) :=
  if name == "?" then some (toString s.status).toList
  else if name == "$" then some ['1']
  else if name == "#" then some ['0']
  else if name == "0" then some "bash".toList
  else (s.bindings.get? name).map fun v => v.value

def assign (s : State) (name : String) (value : List Char) : State :=
  let wasExported := ((s.bindings.get? name).map fun v => v.isExported).getD false
  { s with bindings := s.bindings.insert name ⟨value, wasExported⟩ }

def write (s : State) (sink : Sink) (text : List Char) : State :=
  match sink with
  | .output => { s with written := s.written ++ text }
  | .nowhere => s
  | .file path =>
    { s with files := s.files.insert path ((s.files.get? path).getD [] ++ text) }

def ended (s : State) (status : Nat) : State :=
  { s with status := status }

end State

end SqlBench.Shell
