import SqlBench.Execution
import SqlBench.QueryFile
import SqlBench.Variables

set_option autoImplicit false

namespace SqlBench.Plan

def templatesBy (load : String → Except Failure QueryFile) (b : Benchmark) :
    Except Failure (Dict QueryFile) :=
  b.queries.foldlM (fun found name => (load name).map fun f => found.insert name f) Dict.empty

def templates (queries : QueryFolder) (b : Benchmark) : Except Failure (Dict QueryFile) :=
  templatesBy queries.load b

def combinations (b : Benchmark) : Except Failure (List Attributes) :=
  (Variables.expand b.parameters).map fun all => if all.isEmpty then [Dict.empty] else all

def attributes (combination : Attributes) (run : Nat) : Attributes :=
  combination.insert Benchmark.runAttribute (toString run)

def context (b : Benchmark) (combination : Attributes) (run : Nat) : Attributes :=
  b.identity.overrideWith (attributes combination run)

def singleStatement (environment : Template.Environment) (f : QueryFile) (seen : Attributes) :
    Except Failure String :=
  match f.statements environment seen with
  | .error cause => .error cause
  | .ok [statement] => .ok statement
  | .ok [] => .error (.template f.path seen .noStatement)
  | .ok _ => .error (.template f.path seen .severalStatements)

structure Source where
  benchmark : Benchmark
  templates : Dict QueryFile
  environment : Template.Environment

def execution (s : Source) (combination : Attributes) (run number : Nat) (query : String) :
    Except Failure Execution :=
  match s.templates.get? query with
  | none => .error (.illegal (.queryNotLoaded query))
  | some f =>
    match singleStatement s.environment f (context s.benchmark combination run) with
    | .ok statement =>
      .ok ⟨s.benchmark, query, number, attributes combination run, statement⟩
    | .error cause => .error cause

def ofRun (s : Source) (combination : Attributes) (run : Nat) :
    Nat → List String → Except Failure (List Execution)
  | _, [] => .ok []
  | number, query :: rest => do
    let first ← execution s combination run number query
    let others ← ofRun s combination run (number + 1) rest
    pure (first :: others)

def ofCombination (s : Source) (combination : Attributes) :
    Nat → Nat → Nat → Except Failure (List Execution)
  | 0, _, _ => .ok []
  | more + 1, run, number => do
    let first ← ofRun s combination run number s.benchmark.queries
    let others ←
      ofCombination s combination more (run + 1) (number + s.benchmark.queries.length)
    pure (first ++ others)

def ofCombinations (s : Source) (runs : Nat) :
    Nat → List Attributes → Except Failure (List Execution)
  | _, [] => .ok []
  | number, combination :: rest => do
    let first ← ofCombination s combination runs 0 number
    let others ← ofCombinations s runs (number + runs * s.benchmark.queries.length) rest
    pure (first ++ others)

def executions (s : Source) (runs : Nat) : Except Failure (List Execution) := do
  let all ← combinations s.benchmark
  ofCombinations s runs 0 all

def size (b : Benchmark) : Except Failure Nat :=
  (Variables.combinationCount b.parameters).map fun n => n * b.runs * b.queries.length

-- The size as it is multiplied up in a word of 64 bits.
def wordSize (b : Benchmark) : Except Failure Width.Word :=
  (Variables.Odometer.start b.parameters).map fun o =>
    let combinations := o.wordCount
    [b.runs, b.queries.length].foldl (Width.Word.times 64)
      { combinations with value := max combinations.value 1 }

end SqlBench.Plan
