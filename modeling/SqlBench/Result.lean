import SqlBench.Execution
import SqlBench.Statistics

set_option autoImplicit false

namespace SqlBench

inductive Phase where
  | pending
  | preparing
  | executing
  | aggregating
  | cleaningUp
  | completed
  | failed
  deriving DecidableEq, Repr, Inhabited

namespace Phase

def name : Phase → String
  | .pending => "PENDING"
  | .preparing => "RUNNING_PRE_MACROS"
  | .executing => "EXECUTING"
  | .aggregating => "AGGREGATING"
  | .cleaningUp => "RUNNING_POST_MACROS"
  | .completed => "COMPLETED"
  | .failed => "FAILED"

def isTerminal (p : Phase) : Bool :=
  p = .completed ∨ p = .failed

end Phase

inductive Status where
  | success
  | failed
  deriving DecidableEq, Repr, Inhabited

def Status.name : Status → String
  | .success => "SUCCESS"
  | .failed => "FAILED"

structure BenchmarkResult where
  benchmark : Benchmark
  phase : Phase
  startedAt : Moment
  finishedAt : Option Moment
  executions : List ExecutionResult
  failures : List Failure
  measurements : List Measurement
  aggregates : Dict Statistics.Aggregate
  deriving Inhabited

namespace BenchmarkResult

def start (b : Benchmark) (now : Moment) : BenchmarkResult :=
  ⟨b, .pending, now, none, [], [], [], Dict.empty⟩

def isSuccessful (r : BenchmarkResult) : Bool :=
  r.phase ≠ .failed && r.failures.isEmpty && r.executions.all ExecutionResult.isSuccessful

def status (r : BenchmarkResult) : Status :=
  if r.isSuccessful then .success else .failed

def failedExecutions (r : BenchmarkResult) : Nat :=
  (r.executions.filter fun e => !e.isSuccessful).length

def failureCauses (r : BenchmarkResult) : List Failure :=
  r.failures ++ r.executions.filterMap ExecutionResult.failure

def earliest? : List Moment → Option Moment
  | [] => none
  | first :: rest => some (rest.foldl min first)

def latest? : List Moment → Option Moment
  | [] => none
  | first :: rest => some (rest.foldl max first)

def queryDuration (r : BenchmarkResult) : Option Span :=
  match earliest? (r.executions.map ExecutionResult.start),
    latest? (r.executions.map ExecutionResult.finish) with
  | some first, some last => some (first.spanTo last)
  | _, _ => none

def addFailure (r : BenchmarkResult) (cause : Failure) : BenchmarkResult :=
  { r with failures := r.failures ++ [cause] }

def finish (r : BenchmarkResult) (phase : Phase) (now : Moment) : BenchmarkResult :=
  { r with phase := phase, finishedAt := some now }

end BenchmarkResult

end SqlBench
