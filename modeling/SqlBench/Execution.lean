import SqlBench.Benchmark
import SqlBench.Clock

set_option autoImplicit false

namespace SqlBench

structure Execution where
  benchmark : Benchmark
  query : String
  number : Nat
  attributes : Attributes
  statement : String
  deriving DecidableEq, Inhabited

def Execution.label (e : Execution) : String :=
  e.benchmark.name ++ "/" ++ e.query ++ "#" ++ toString e.number

def Execution.hookAttributes (e : Execution) : Attributes :=
  (e.benchmark.identity.overrideWith e.attributes).insert "query_name" e.query

structure ExecutionResult where
  execution : Execution
  start : Moment
  finish : Moment
  rows : Nat
  queryId : Option String
  failure : Option Failure
  measurements : List Measurement
  deriving Inhabited

namespace ExecutionResult

def isSuccessful (r : ExecutionResult) : Bool :=
  r.failure.isNone

def duration (r : ExecutionResult) : Span :=
  r.start.spanTo r.finish

def fail (r : ExecutionResult) (cause : Failure) : ExecutionResult :=
  { r with failure := some (r.failure.getD cause) }

end ExecutionResult

structure Recording where
  execution : Execution
  start : Option Moment
  rows : Nat
  queryId : Option String
  failure : Option Failure
  deriving Inhabited

namespace Recording

def blank (e : Execution) : Recording :=
  ⟨e, none, 0, none, none⟩

def startTimer (r : Recording) (now : Moment) : Except Failure Recording :=
  match r.start with
  | none => .ok { r with start := some now }
  | some _ => .error (.illegal (.timerRunning r.execution.label))

def setRows (r : Recording) (rows : Nat) : Recording :=
  { r with rows := rows }

def setQueryId (r : Recording) (id : Option String) : Recording :=
  { r with queryId := id }

def fail (r : Recording) (cause : Failure) : Recording :=
  { r with failure := some (r.failure.getD cause) }

def hasFailed (r : Recording) : Bool :=
  r.failure.isSome

def stopTimer (r : Recording) (now : Moment) : Except Failure ExecutionResult :=
  match r.start with
  | some start => .ok ⟨r.execution, start, now, r.rows, r.queryId, r.failure, []⟩
  | none => .error (.illegal (.timerNotStarted r.execution.label))

end Recording

end SqlBench
