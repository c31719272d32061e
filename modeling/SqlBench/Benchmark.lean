import SqlBench.Failure

set_option autoImplicit false

namespace SqlBench

structure Benchmark where
  name : String
  sequenceId : String
  dataSource : String
  environment : String
  concurrency : Nat
  runs : Nat
  prewarmRuns : Nat
  queries : List String
  parameters : Dict (List String)
  beforeBenchmark : List String
  afterBenchmark : List String
  beforeExecution : List String
  afterExecution : List String
  deriving DecidableEq, Inhabited

namespace Benchmark

def runAttribute : String := "execution_sequence_id"

def named (name dataSource : String) : Benchmark :=
  ⟨name, "1", dataSource, "default", 1, 1, 0, [], Dict.empty, [], [], [], []⟩

def isConcurrent (b : Benchmark) : Bool :=
  1 < b.concurrency

def uniqueName (b : Benchmark) : String :=
  b.name ++ "_" ++ b.environment

def withSequenceId (b : Benchmark) (id : String) : Benchmark :=
  { b with sequenceId := id }

def identity (b : Benchmark) : Attributes :=
  Dict.ofList
    [("benchmark_name", b.name), ("sequence_id", b.sequenceId), ("datasource", b.dataSource),
      ("environment", b.environment), ("concurrency", toString b.concurrency),
      ("runs", toString b.runs)]

def summary (b : Benchmark) : String :=
  b.name ++ " (seq=" ++ b.sequenceId ++ ", datasource=" ++ b.dataSource ++ ", runs=" ++
    toString b.runs ++ ", concurrency=" ++ toString b.concurrency ++ ")"

def emptyVariable? (parameters : Dict (List String)) : Option String :=
  (parameters.toList.find? fun e => e.2.isEmpty).map fun e => e.1

-- Refuses a benchmark that could not run: the first fault in the order name, concurrency, runs,
-- queries, variables.
def validate (b : Benchmark) : Except Failure Unit :=
  if b.name.isEmpty then .error (.invalid .emptyName)
  else if b.concurrency < 1 then .error (.invalid (.noConcurrency b.name b.concurrency))
  else if b.runs < 1 then .error (.invalid (.noRuns b.name b.runs))
  else if b.queries.isEmpty then .error (.invalid (.noQueries b.name))
  else
    match emptyVariable? b.parameters with
    | some key => .error (.invalid (.emptyVariable b.name key))
    | none => .ok ()

inductive Setting where
  | sequenceId (id : String)
  | environment (name : String)
  | concurrency (n : Nat)
  | runs (n : Nat)
  | prewarmRuns (n : Nat)
  | query (name : String)
  | variable (key : String) (values : List String)
  | beforeBenchmark (hooks : List String)
  | afterBenchmark (hooks : List String)
  | beforeExecution (hooks : List String)
  | afterExecution (hooks : List String)

-- Applies a setting: queries add up, everything else replaces what was there.
def apply (b : Benchmark) : Setting → Benchmark
  | .sequenceId id => { b with sequenceId := id }
  | .environment name => { b with environment := name }
  | .concurrency n => { b with concurrency := n }
  | .runs n => { b with runs := n }
  | .prewarmRuns n => { b with prewarmRuns := n }
  | .query name => { b with queries := b.queries ++ [name] }
  | .variable key values => { b with parameters := b.parameters.insert key values }
  | .beforeBenchmark hooks => { b with beforeBenchmark := hooks }
  | .afterBenchmark hooks => { b with afterBenchmark := hooks }
  | .beforeExecution hooks => { b with beforeExecution := hooks }
  | .afterExecution hooks => { b with afterExecution := hooks }

def build (name dataSource : String) (settings : List Setting) : Except Failure Benchmark :=
  let b := settings.foldl apply (named name dataSource)
  match b.validate with
  | .ok () => .ok b
  | .error e => .error e

end Benchmark

end SqlBench
