import SqlBench.Descriptor
import SqlBench.FileTree

set_option autoImplicit false

namespace SqlBench

structure Catalog where
  files : FileTree
  dirs : List String
  naming : Descriptor.Naming
  expansion : Expansion

namespace Catalog

def isDescriptorName (name : String) : Bool :=
  match (Path.stemAndExtension name).2 with
  | some e => e == "yaml" || e == "yml"
  | none => false

def inDirectory (dir : String) (entries : List (String × FileTree)) : List (String × String) :=
  entries.filterMap fun e =>
    match e.2 with
    | .file _ =>
      if isDescriptorName e.1 then
        some ((Path.stemAndExtension e.1).1, Path.join dir e.1)
      else none
    | .directory _ => none

def addNew (found : Dict String) (entry : String × String) : Dict String :=
  if found.contains entry.1 then found else found.insert entry.1 entry.2

def descriptors (c : Catalog) : Dict String :=
  c.dirs.foldl
    (fun found dir =>
      match c.files.list dir with
      | some entries => (inDirectory dir entries).foldl addNew found
      | none => found)
    Dict.empty

def loadFile (c : Catalog) (entry : String × String) : Except Failure Benchmark :=
  match c.files.read entry.2 with
  | .error e => .error (.io e.text)
  | .ok content =>
    match Descriptor.parse c.naming c.expansion entry.1 content with
    | .ok b => .ok b
    | .error e => .error (.config (.benchmarkFile entry.2 e.message))

def isWanted (names : List String) (entry : String × String) : Bool :=
  names.isEmpty || names.contains entry.1

def load (c : Catalog) (names : List String) : Except Failure (List Benchmark) :=
  let found := c.descriptors
  match names.find? fun name => !found.contains name with
  | some name => .error (.config (.unknownBenchmark name c.dirs))
  | none => (found.toList.filter (isWanted names)).mapM c.loadFile

def loadSequences (c : Catalog) (names sequenceIds : List String) :
    Except Failure (List Benchmark) :=
  if sequenceIds.isEmpty then .error (.invalid .noSequenceIds)
  else
    (c.load names).map fun benchmarks =>
      benchmarks.flatMap fun b => sequenceIds.map b.withSequenceId

end Catalog

end SqlBench
