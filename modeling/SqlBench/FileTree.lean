import SqlBench.Path
import SqlBench.Text.Octets

set_option autoImplicit false

namespace SqlBench

inductive FileTree where
  | file (octets : List UInt8)
  | directory (entries : List (String × FileTree))
  deriving Inhabited

inductive ReadFault where
  | missing
  | notDirectory
  | isDirectory
  | notText
  deriving DecidableEq, Repr

def ReadFault.text : ReadFault → String
  | .missing => "No such file or directory (os error 2)"
  | .notDirectory => "Not a directory (os error 20)"
  | .isDirectory => "Is a directory (os error 21)"
  | .notText => "stream did not contain valid UTF-8"

namespace FileTree

def child (name : String) : FileTree → Except ReadFault FileTree
  | .file _ => .error .notDirectory
  | .directory entries =>
    match entries.lookup name with
    | some t => .ok t
    | none => .error .missing

-- Walks down a list of parts; `above` holds the directories passed on the way.
def walk (t : FileTree) (above : List FileTree) : List String → Except ReadFault FileTree
  | [] => .ok t
  | ".." :: rest =>
    match t, above with
    | .file _, _ => .error .notDirectory
    | .directory _, [] => .error .missing
    | .directory _, up :: above => walk up above rest
  | name :: rest =>
    match t.child name with
    | .error e => .error e
    | .ok next => walk next (t :: above) rest

def find (t : FileTree) (path : String) : Except ReadFault FileTree :=
  if path.isEmpty || Path.isAbsolute path then .error .missing
  else t.walk [] (Path.parts path)

def isFile (t : FileTree) (path : String) : Bool :=
  match t.find path with
  | .ok (.file _) => true
  | _ => false

def list (t : FileTree) (path : String) : Option (List (String × FileTree)) :=
  match t.find path with
  | .ok (.directory entries) => some entries
  | _ => none

def read (t : FileTree) (path : String) : Except ReadFault String :=
  match t.find path with
  | .error e => .error e
  | .ok (.directory _) => .error .isDirectory
  | .ok (.file octets) =>
    match Text.decode? octets with
    | some s => .ok s
    | none => .error .notText

def insert (new : FileTree) : List String → FileTree → FileTree
  | [], _ => new
  | name :: rest, t =>
    let entries :=
      match t with
      | .directory entries => entries
      | .file _ => []
    let old := (entries.lookup name).getD (.directory [])
    .directory ((entries.filter fun e => e.1 != name) ++ [(name, insert new rest old)])

mutual

def texts (place : List String) : FileTree → List (String × String)
  | .file octets => ((Text.decode? octets).map fun s => ("/".intercalate place, s)).toList
  | .directory entries => textsOf place entries

def textsOf (place : List String) : List (String × FileTree) → List (String × String)
  | [] => []
  | (name, t) :: rest => t.texts (place ++ [name]) ++ textsOf place rest

end

end FileTree

end SqlBench
