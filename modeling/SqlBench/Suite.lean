import SqlBench.Plan
import SqlBench.Pool.Basic
import SqlBench.Settings

set_option autoImplicit false

namespace SqlBench

structure Suite (σ : Type) where
  services : Services σ
  failurePolicy : FailurePolicy
  cleanupPolicy : CleanupPolicy
  beforeAll : List String
  afterAll : List String
  -- The hooks before every benchmark; if they fail, the benchmark is rejected.
  healthCheck : List String
  timeLimit : Option Span

namespace Suite

structure Stage where
  executions : List ExecutionResult
  -- The pool stopped itself after a failure.
  isAborted : Bool
  isInterrupted : Bool
  isTimedOut : Bool

variable {σ : Type}

def deadline (s : Suite σ) (now : Moment) : Option Moment :=
  s.timeLimit.map fun limit => now + limit

def isReached (deadline : Option Moment) (now : Moment) : Bool :=
  deadline.any fun t => t ≤ now

def pool (s : Suite σ) (b : Benchmark) (deadline : Option Moment) : Pool σ where
  services := s.services
  concurrency := b.concurrency
  stopOnFailure := s.failurePolicy = .abort
  deadline := deadline
  isQuiet := false
  recordsCrashes := true

-- The pool for runs ahead of the measured ones, whose failures and events do not matter.
def warmUpPool (s : Suite σ) (b : Benchmark) (deadline : Option Moment) : Pool σ :=
  { s.pool b deadline with stopOnFailure := false, isQuiet := true }

def measure (s : Suite σ) (source : Plan.Source) (deadline : Option Moment) (c : Course σ) :
    Except Halt Stage × Course σ :=
  let b := source.benchmark
  let p := s.pool b deadline
  match p.setUp, Plan.executions source b.runs with
  | .error halt, _ => (.error halt, c)
  | .ok (), .error cause => (.error (.failed cause), c)
  | .ok (), .ok planned =>
    let ended := p.run planned c
    let results := ended.results
    let wasInterrupted := p.isInterrupted ended.course
    (.ok
      { executions := results
        isAborted := ended.hasStopped && !wasInterrupted
        isInterrupted := results.length < planned.length && wasInterrupted
        isTimedOut := false },
      ended.course)

def warmUpAndMeasure (s : Suite σ) (source : Plan.Source) (deadline : Option Moment)
    (c : Course σ) : Except Halt Stage × Course σ :=
  let b := source.benchmark
  if b.prewarmRuns = 0 then s.measure source deadline c
  else
    let p := s.warmUpPool b deadline
    match Plan.executions source b.prewarmRuns, p.setUp with
    | .error cause, _ => (.error (.failed cause), c)
    | .ok _, .error halt => (.error halt, c)
    | .ok planned, .ok () =>
      let c := (p.run planned c).course
      if p.isInterrupted c then (.ok ⟨[], false, true, false⟩, c)
      else s.measure source deadline c

-- An interruption that nobody asked for is the deadline's.
def execute (s : Suite σ) (b : Benchmark) (deadline : Option Moment) (c : Course σ) :
    Except Halt Stage × Course σ :=
  match Plan.templates s.services.queries b with
  | .error cause => (.error (.failed cause), c)
  | .ok templates =>
    let source : Plan.Source := ⟨b, templates, s.services.queries.environment⟩
    match s.warmUpAndMeasure source deadline c with
    | (.error halt, c) => (.error halt, c)
    | (.ok stage, c) =>
      if stage.isInterrupted && !c.isStopped then
        (.ok { stage with isInterrupted := false, isTimedOut := true }, c)
      else (.ok stage, c)

def addStage (r : BenchmarkResult) (stage : Stage) : BenchmarkResult :=
  let name := r.benchmark.name
  let r := if stage.isInterrupted then r.addFailure (.interrupted name) else r
  let r := if stage.isTimedOut then r.addFailure (.timeLimit name) else r
  { r with executions := stage.executions }

-- What works on a whole benchmark gives a result whatever fails in it, unless a panic unwinds it.
def prepareAndExecute (s : Suite σ) (deadline : Option Moment) (r : BenchmarkResult)
    (c : Course σ) : Except String (BenchmarkResult × Bool) × Course σ :=
  let b := r.benchmark
  let (prepared, c) := Hook.bracket s.services (.beforeBenchmark b) (some b) b.beforeBenchmark c
  match prepared with
  | .error (.failed cause) => (.ok ({ r with phase := .preparing }.addFailure cause, false), c)
  | .error (.crashed panic) => (.error panic, c)
  | .ok () =>
    let r := { r with phase := .executing }
    match s.execute b deadline c with
    | (.ok stage, c) => (.ok (addStage r stage, stage.isAborted), c)
    | (.error (.failed cause), c) => (.ok (r.addFailure cause, false), c)
    | (.error (.crashed panic), c) => (.error panic, c)

def summarise (r : BenchmarkResult) : BenchmarkResult :=
  let successful := r.executions.filter ExecutionResult.isSuccessful
  match Statistics.aggregateByName (successful.flatMap fun e => e.measurements) with
  | .ok aggregates => { r with aggregates := aggregates }
  | .error cause => r.addFailure cause

def aggregate (s : Suite σ) (r : BenchmarkResult) (c : Course σ) :
    Except String BenchmarkResult × Course σ :=
  let r := { r with phase := .aggregating }
  match c.collect (.benchmark r) s.services.collector [] with
  | (.ok found, c) => (.ok (summarise { r with measurements := found }), c)
  | (.error (.failed cause), c) => (.ok (summarise (r.addFailure cause)), c)
  | (.error (.crashed panic), c) => (.error panic, c)

-- The failure of the hooks behind a benchmark counts if nothing failed before.
def cleanUp (s : Suite σ) (r : BenchmarkResult) (c : Course σ) :
    Except String BenchmarkResult × Course σ :=
  let r := { r with phase := .cleaningUp }
  let b := r.benchmark
  let isTotalFailure := r.executions.all fun e => !e.isSuccessful
  if b.afterBenchmark.isEmpty then (.ok r, c)
  else if isTotalFailure && s.cleanupPolicy = .skipOnTotalFailure then (.ok r, c)
  else
    match Hook.bracket s.services (.afterBenchmark b) (some b) b.afterBenchmark c with
    | (.ok (), c) => (.ok r, c)
    | (.error (.failed cause), c) => (.ok (if r.isSuccessful then r.addFailure cause else r), c)
    | (.error (.crashed panic), c) => (.error panic, c)

def lastPhase (r : BenchmarkResult) (isAborted : Bool) : Phase :=
  let hasFailed := r.failedExecutions < r.failureCauses.length
  let isTotalFailure := !r.executions.any ExecutionResult.isSuccessful
  if isAborted || hasFailed || isTotalFailure then .failed else .completed

def finish (r : BenchmarkResult) (phase : Phase) (c : Course σ) :
    Except String BenchmarkResult × Course σ :=
  let r := r.finish phase c.now
  (.ok r, c.post (.benchmarkFinished r))

def reject (b : Benchmark) (cause : Failure) (c : Course σ) :
    Except String BenchmarkResult × Course σ :=
  finish ((BenchmarkResult.start b c.now).addFailure cause) .failed c

def runAccepted (s : Suite σ) (deadline : Option Moment) (b : Benchmark) (c : Course σ) :
    Except String BenchmarkResult × Course σ :=
  let started := c.post (.benchmarkStarted b)
  Course.andThen (s.prepareAndExecute deadline (.start b c.now) started) fun staged c =>
    Course.andThen (s.aggregate staged.1 c) fun r c =>
      Course.andThen (s.cleanUp r c) fun r c =>
        finish r (lastPhase r staged.2) c

def runUntil (s : Suite σ) (deadline : Option Moment) (b : Benchmark) (c : Course σ) :
    Except String BenchmarkResult × Course σ :=
  match b.validate with
  | .error cause => reject b cause c
  | .ok () => s.runAccepted deadline b c

def runChecked (s : Suite σ) (deadline : Option Moment) (b : Benchmark) (c : Course σ) :
    Except String BenchmarkResult × Course σ :=
  match Hook.bracket s.services (.healthCheck b) (some b) s.healthCheck c with
  | (.ok (), c) => s.runUntil deadline b c
  | (.error (.failed cause), c) => reject b cause c
  | (.error (.crashed panic), c) => (.error panic, c)

def runInOrder (s : Suite σ) (deadline : Option Moment) :
    List Benchmark → Course σ → Except String (List BenchmarkResult) × Course σ
  | [], c => (.ok [], c)
  | b :: rest, c =>
    if c.isStopped || isReached deadline c.now then (.ok [], c)
    else
      Course.andThen (s.runChecked deadline b c) fun r c =>
        if !r.isSuccessful && s.failurePolicy = .abort then (.ok [r], c)
        else
          Course.andThen (runInOrder s deadline rest c) fun others c => (.ok (r :: others), c)

def cleanUpAll (s : Suite σ) (c : Course σ) : Except String Unit × Course σ :=
  match Hook.bracket s.services .afterAll none s.afterAll c with
  | (.ok (), c) => (.ok (), c)
  | (.error (.failed _), c) => (.ok (), c)
  | (.error (.crashed panic), c) => (.error panic, c)

def tellsDeadline (s : Suite σ) (now : Moment) : Bool :=
  s.timeLimit.all (s.services.clock.allows now)

-- What a suite returns, if nothing unwinds it: a failure only if the hooks before all fail.
def run (s : Suite σ) (benchmarks : List Benchmark) (c : Course σ) :
    Except String (Except Failure (List BenchmarkResult)) × Course σ :=
  let deadline := s.deadline c.now
  if !s.tellsDeadline c.now then (.error Instant.overflow, c)
  else
    match Hook.bracket s.services .beforeAll none s.beforeAll c with
    | (.error (.crashed panic), c) => (.error panic, c)
    | (.error (.failed cause), c) =>
      Course.andThen (s.cleanUpAll c) fun _ c => (.ok (.error cause), c)
    | (.ok (), c) =>
      Course.andThen (s.runInOrder deadline benchmarks c) fun results c =>
        Course.andThen (s.cleanUpAll c) fun _ c => (.ok (.ok results), c)

def runBenchmark (s : Suite σ) (b : Benchmark) (c : Course σ) :
    Except String BenchmarkResult × Course σ :=
  if s.tellsDeadline c.now then s.runUntil (s.deadline c.now) b c
  else (.error Instant.overflow, c)

def runEach (s : Suite σ) :
    List Benchmark → Course σ → Except String (List BenchmarkResult) × Course σ
  | [], c => (.ok [], c)
  | b :: rest, c =>
    Course.andThen (s.runBenchmark b c) fun r c =>
      Course.andThen (runEach s rest c) fun others c => (.ok (r :: others), c)

end Suite

end SqlBench
