import SqlBench.Result

set_option autoImplicit false

namespace SqlBench

inductive Subject where
  | execution (r : ExecutionResult)
  | benchmark (r : BenchmarkResult)

abbrev Finding := Except Halt (List Measurement)

structure Answer where
  delay : Span
  finding : Finding

def Answer.instant (found : Except Failure (List Measurement)) : Answer :=
  ⟨0, found.mapError .failed⟩

abbrev EngineClient (σ : Type) := String → σ → Answer × σ

abbrev Provider (σ : Type) := Subject → σ → Answer × σ

namespace Provider

variable {σ : Type}

def durationOf (d : Span) : Measurement :=
  ⟨"duration", .milliseconds, d.toMillis⟩

def duration : Provider σ := fun subject world =>
  match subject with
  | .execution r => (.instant (.ok [durationOf r.duration]), world)
  | .benchmark r =>
    if r.benchmark.isConcurrent then
      match r.queryDuration with
      | some d => (.instant (.ok [durationOf d]), world)
      | none => (.instant (.ok []), world)
    else (.instant (.ok []), world)

def throughputOf (r : BenchmarkResult) : Except Failure (List Measurement) :=
  if r.benchmark.isConcurrent && r.isSuccessful then
    match r.queryDuration with
    | some d =>
      if d = 0 then .error (.invalid (.zeroTime r.benchmark.name r.executions.length))
      else
        let rate := Float.ofNat r.executions.length / d.toMillis * 1000.0
        .ok [⟨"throughput", .queriesPerSecond, rate⟩]
    | none => .ok []
  else .ok []

def throughput : Provider σ := fun subject world =>
  match subject with
  | .execution _ => (.instant (.ok []), world)
  | .benchmark r => (.instant (throughputOf r), world)

def engine (client : EngineClient σ) : Provider σ := fun subject world =>
  match subject with
  | .execution r =>
    match r.queryId with
    | some id => client id world
    | none => (.instant (.ok []), world)
  | .benchmark _ => (.instant (.ok []), world)

end Provider

inductive Requirement where
  | required
  | optional
  deriving DecidableEq, Repr, Inhabited

-- What is known behind an answer. Only a panic and the failure of a required provider end a round.
def Requirement.heed (requirement : Requirement) (heard : List Measurement) : Finding → Finding
  | .ok found => .ok (heard ++ found)
  | .error (.failed cause) =>
    match requirement with
    | .required => .error (.failed cause)
    | .optional => .ok heard
  | .error (.crashed panic) => .error (.crashed panic)

abbrev Collector (σ : Type) := List (Requirement × Provider σ)

namespace Collector

variable {σ : Type}

def standard : Collector σ :=
  [(.required, Provider.duration), (.required, Provider.throughput)]

inductive Round where
  | waiting (delay : Span) (heard : Finding) (asked : Nat)
  | done (finding : Finding)

def ask (subject : Subject) : Collector σ → Nat → List Measurement → σ → Round × σ
  | [], _, heard, world => (.done (.ok heard), world)
  | (requirement, provider) :: rest, asked, heard, world =>
    let (answer, world) := provider subject world
    if answer.delay = 0 then
      match requirement.heed heard answer.finding with
      | .ok heard => ask subject rest (asked + 1) heard world
      | .error halt => (.done (.error halt), world)
    else (.waiting answer.delay (requirement.heed heard answer.finding) (asked + 1), world)

def goOn (collector : Collector σ) (subject : Subject) (asked : Nat) (heard : Finding)
    (world : σ) : Round × σ :=
  match heard with
  | .ok heard => ask subject (collector.drop asked) asked heard world
  | .error halt => (.done (.error halt), world)

end Collector

end SqlBench
