import SqlBench.Proofs.Plan
import SqlBench.Proofs.Pool.Fate
import SqlBench.Suite

set_option autoImplicit false

namespace SqlBench.Suite

variable {σ : Type}

def Plans (s : Suite σ) (b : Benchmark) (planned : List Execution) : Prop :=
  ∃ templates, Plan.templates s.services.queries b = .ok templates ∧
    Plan.executions ⟨b, templates, s.services.queries.environment⟩ b.runs = .ok planned

-- Without an abort everything planned was run, and an abort comes from a failed execution.
structure Accounts (planned : List Execution) (executions : List ExecutionResult)
    (isAborted : Bool) : Prop where
  whole : isAborted = false → executions.map ExecutionResult.execution = planned
  aborted : isAborted = true → ∃ r ∈ executions, r.isSuccessful = false

theorem Accounts.whole_or_aborted {planned : List Execution} {executions : List ExecutionResult}
    {isAborted : Bool} (accounts : Accounts planned executions isAborted) :
    executions.map ExecutionResult.execution = planned ∨
      isAborted = true ∧ ∃ r ∈ executions, r.isSuccessful = false := by
  cases aborted : isAborted with
  | false => exact .inl (accounts.whole aborted)
  | true => exact .inr ⟨rfl, accounts.aborted aborted⟩

def poolStage (p : Pool σ) (planned : List Execution) (c : Course σ) : Stage where
  executions := (p.run planned c).results
  isAborted := (p.run planned c).hasStopped && !p.isInterrupted (p.run planned c).course
  isInterrupted := (p.run planned c).results.length < planned.length &&
    p.isInterrupted (p.run planned c).course
  isTimedOut := false

-- Puts an interruption that nobody asked for down to the deadline.
def attributed (stage : Stage) (c : Course σ) : Stage :=
  if stage.isInterrupted && !c.isStopped then { stage with isInterrupted := false, isTimedOut := true }
  else stage

@[simp] theorem attributed_executions (stage : Stage) (c : Course σ) :
    (attributed stage c).executions = stage.executions := by
  rw [attributed]
  split <;> rfl

@[simp] theorem attributed_aborted (stage : Stage) (c : Course σ) :
    (attributed stage c).isAborted = stage.isAborted := by
  rw [attributed]
  split <;> rfl

theorem attributed_goes_on {stage : Stage} {c : Course σ}
    (goesOn : (attributed stage c).isInterrupted = false) (inTime : (attributed stage c).isTimedOut = false) :
    stage.isInterrupted = false := by
  cases interrupted : stage.isInterrupted with
  | false => rfl
  | true => cases stopped : c.isStopped <;> simp [attributed, interrupted, stopped] at goesOn inTime

def loaded (s : Suite σ) (b : Benchmark) (templates : Dict QueryFile) : Plan.Source :=
  ⟨b, templates, s.services.queries.environment⟩

inductive WarmsUp (s : Suite σ) (source : Plan.Source) (deadline : Option Moment) (c : Course σ) :
    Course σ → Prop where
  | cold (cold : source.benchmark.prewarmRuns = 0) : WarmsUp s source deadline c c
  | warm {warmUp : List Execution}
      (plans : Plan.executions source source.benchmark.prewarmRuns = .ok warmUp)
      (fits : (s.pool source.benchmark deadline).setUp = .ok ())
      (goesOn : (s.pool source.benchmark deadline).isInterrupted
        ((s.warmUpPool source.benchmark deadline).run warmUp c).course = false) :
      WarmsUp s source deadline c ((s.warmUpPool source.benchmark deadline).run warmUp c).course

inductive Executes (s : Suite σ) (b : Benchmark) (deadline : Option Moment) (c : Course σ) :
    Except Halt Stage → Course σ → Prop where
  | unloaded {cause : Failure} (fails : Plan.templates s.services.queries b = .error cause) :
      Executes s b deadline c (.error (.failed cause)) c
  | cold {templates : Dict QueryFile} {cause : Failure}
      (loads : Plan.templates s.services.queries b = .ok templates)
      (fails : Plan.executions (s.loaded b templates) b.prewarmRuns = .error cause) :
      Executes s b deadline c (.error (.failed cause)) c
  | unfit {templates : Dict QueryFile} {panic : String}
      (loads : Plan.templates s.services.queries b = .ok templates)
      (fails : (s.pool b deadline).setUp = .error (.crashed panic)) :
      Executes s b deadline c (.error (.crashed panic)) c
  | cutShort {templates : Dict QueryFile} {warmUp : List Execution}
      (loads : Plan.templates s.services.queries b = .ok templates)
      (warms : Plan.executions (s.loaded b templates) b.prewarmRuns = .ok warmUp)
      (fits : (s.pool b deadline).setUp = .ok ())
      (interrupted : (s.pool b deadline).isInterrupted
        ((s.warmUpPool b deadline).run warmUp c).course = true) :
      Executes s b deadline c
        (.ok (attributed ⟨[], false, true, false⟩ ((s.warmUpPool b deadline).run warmUp c).course))
        ((s.warmUpPool b deadline).run warmUp c).course
  | unplanned {templates : Dict QueryFile} {cause : Failure} {begun : Course σ}
      (loads : Plan.templates s.services.queries b = .ok templates)
      (warms : WarmsUp s (s.loaded b templates) deadline c begun)
      (fits : (s.pool b deadline).setUp = .ok ())
      (fails : Plan.executions (s.loaded b templates) b.runs = .error cause) :
      Executes s b deadline c (.error (.failed cause)) begun
  | measured {templates : Dict QueryFile} {planned : List Execution} {begun : Course σ}
      (loads : Plan.templates s.services.queries b = .ok templates)
      (warms : WarmsUp s (s.loaded b templates) deadline c begun)
      (fits : (s.pool b deadline).setUp = .ok ())
      (plans : Plan.executions (s.loaded b templates) b.runs = .ok planned) :
      Executes s b deadline c
        (.ok (attributed (poolStage (s.pool b deadline) planned begun)
          ((s.pool b deadline).run planned begun).course))
        ((s.pool b deadline).run planned begun).course

theorem set_up_cases (p : Pool σ) : p.setUp = .ok () ∨ ∃ panic, p.setUp = .error (.crashed panic) := by
  rw [Pool.setUp]
  split
  · exact .inl rfl
  · exact .inr ⟨_, rfl⟩

theorem warm_up_set_up (s : Suite σ) (b : Benchmark) (deadline : Option Moment) :
    (s.warmUpPool b deadline).setUp = (s.pool b deadline).setUp :=
  rfl

theorem warm_up_cases (s : Suite σ) (source : Plan.Source) (deadline : Option Moment) (c : Course σ) :
    (∃ begun, WarmsUp s source deadline c begun ∧
      s.warmUpAndMeasure source deadline c = s.measure source deadline begun) ∨
    (∃ cause, Plan.executions source source.benchmark.prewarmRuns = .error cause ∧
      s.warmUpAndMeasure source deadline c = (.error (.failed cause), c)) ∨
    (∃ panic, (s.pool source.benchmark deadline).setUp = .error (.crashed panic) ∧
      s.warmUpAndMeasure source deadline c = (.error (.crashed panic), c)) ∨
    ∃ warmUp, Plan.executions source source.benchmark.prewarmRuns = .ok warmUp ∧
      (s.pool source.benchmark deadline).setUp = .ok () ∧
      (s.pool source.benchmark deadline).isInterrupted
        ((s.warmUpPool source.benchmark deadline).run warmUp c).course = true ∧
      s.warmUpAndMeasure source deadline c = (.ok ⟨[], false, true, false⟩,
        ((s.warmUpPool source.benchmark deadline).run warmUp c).course) := by
  rw [warmUpAndMeasure]
  dsimp only
  rw [warm_up_set_up]
  split
  · rename_i cold
    exact .inl ⟨c, .cold cold, rfl⟩
  · cases plans : Plan.executions source source.benchmark.prewarmRuns with
    | error cause => exact .inr (.inl ⟨cause, rfl, rfl⟩)
    | ok warmUp =>
        rcases set_up_cases (s.pool source.benchmark deadline) with fits | ⟨panic, fails⟩
        · simp only [fits]
          split
          · rename_i interrupted
            exact .inr (.inr (.inr ⟨warmUp, rfl, trivial, interrupted, rfl⟩))
          · rename_i goesOn
            exact .inl ⟨_, .warm plans fits (Bool.eq_false_iff.mpr goesOn), rfl⟩
        · simp only [fails]
          exact .inr (.inr (.inl ⟨panic, rfl, rfl⟩))

theorem measure_unfit {s : Suite σ} {source : Plan.Source} {deadline : Option Moment} {halt : Halt}
    (fails : (s.pool source.benchmark deadline).setUp = .error halt) (c : Course σ) :
    s.measure source deadline c = (.error halt, c) := by
  simp only [measure, fails]

theorem measure_unplanned {s : Suite σ} {source : Plan.Source} {deadline : Option Moment}
    {cause : Failure} (fits : (s.pool source.benchmark deadline).setUp = .ok ())
    (fails : Plan.executions source source.benchmark.runs = .error cause) (c : Course σ) :
    s.measure source deadline c = (.error (.failed cause), c) := by
  simp only [measure, fits, fails]

theorem measure_planned {s : Suite σ} {source : Plan.Source} {deadline : Option Moment}
    {planned : List Execution} (fits : (s.pool source.benchmark deadline).setUp = .ok ())
    (plans : Plan.executions source source.benchmark.runs = .ok planned) (c : Course σ) :
    s.measure source deadline c =
      (.ok (poolStage (s.pool source.benchmark deadline) planned c),
        ((s.pool source.benchmark deadline).run planned c).course) := by
  simp only [measure, fits, plans]
  rfl

theorem execute_unloaded {s : Suite σ} {b : Benchmark} {cause : Failure}
    (fails : Plan.templates s.services.queries b = .error cause) (deadline : Option Moment)
    (c : Course σ) : s.execute b deadline c = (.error (.failed cause), c) := by
  rw [execute, fails]

theorem execute_loaded {s : Suite σ} {b : Benchmark} {templates : Dict QueryFile}
    (loads : Plan.templates s.services.queries b = .ok templates) (deadline : Option Moment)
    (c : Course σ) : s.execute b deadline c =
      match s.warmUpAndMeasure (s.loaded b templates) deadline c with
      | (.error halt, c) => (.error halt, c)
      | (.ok stage, c) => (.ok (attributed stage c), c) := by
  rw [execute, loads, loaded]
  dsimp only
  cases s.warmUpAndMeasure ⟨b, templates, s.services.queries.environment⟩ deadline c with
  | mk outcome ended =>
      cases outcome with
      | error halt => rfl
      | ok stage =>
          dsimp only [attributed]
          split <;> rfl

theorem execute_executes (s : Suite σ) (b : Benchmark) (deadline : Option Moment) (c : Course σ) :
    Executes s b deadline c (s.execute b deadline c).1 (s.execute b deadline c).2 := by
  cases loads : Plan.templates s.services.queries b with
  | error cause =>
      rw [execute_unloaded loads]
      exact .unloaded loads
  | ok templates =>
      rw [execute_loaded loads]
      rcases warm_up_cases s (s.loaded b templates) deadline c with
        ⟨begun, warms, goes⟩ | ⟨cause, fails, goes⟩ | ⟨panic, fails, goes⟩ |
          ⟨warmUp, warms, fits, interrupted, goes⟩
      · rw [goes]
        rcases set_up_cases (s.pool b deadline) with fits | ⟨panic, fails⟩
        · cases plans : Plan.executions (s.loaded b templates) b.runs with
          | error cause =>
              rw [measure_unplanned fits plans]
              exact .unplanned loads warms fits plans
          | ok planned =>
              rw [measure_planned fits plans]
              exact .measured loads warms fits plans
        · rw [measure_unfit fails]
          -- Runs ahead would have had the same pool, so there were none.
          cases warms with
          | cold => exact .unfit loads fails
          | warm plans fits => cases fits.symm.trans fails
      · rw [goes]
        exact .cold loads fails
      · rw [goes]
        exact .unfit loads fails
      · rw [goes]
        exact .cutShort loads warms fits interrupted

def beforeHooks (s : Suite σ) (b : Benchmark) (c : Course σ) : Except Halt Unit × Course σ :=
  Hook.bracket s.services (.beforeBenchmark b) (some b) b.beforeBenchmark c

inductive Prepares (s : Suite σ) (deadline : Option Moment) (r : BenchmarkResult) (c : Course σ) :
    Except String (BenchmarkResult × Bool) → Course σ → Prop where
  | refused {cause : Failure} {begun : Course σ}
      (hooks : s.beforeHooks r.benchmark c = (.error (.failed cause), begun)) :
      Prepares s deadline r c (.ok ({ r with phase := .preparing }.addFailure cause, false)) begun
  | unwound {panic : String} {begun : Course σ}
      (hooks : s.beforeHooks r.benchmark c = (.error (.crashed panic), begun)) :
      Prepares s deadline r c (.error panic) begun
  | failed {cause : Failure} {begun ended : Course σ}
      (hooks : s.beforeHooks r.benchmark c = (.ok (), begun))
      (executes : s.execute r.benchmark deadline begun = (.error (.failed cause), ended)) :
      Prepares s deadline r c (.ok ({ r with phase := .executing }.addFailure cause, false)) ended
  | crashed {panic : String} {begun ended : Course σ}
      (hooks : s.beforeHooks r.benchmark c = (.ok (), begun))
      (executes : s.execute r.benchmark deadline begun = (.error (.crashed panic), ended)) :
      Prepares s deadline r c (.error panic) ended
  | staged {stage : Stage} {begun ended : Course σ}
      (hooks : s.beforeHooks r.benchmark c = (.ok (), begun))
      (executes : s.execute r.benchmark deadline begun = (.ok stage, ended)) :
      Prepares s deadline r c
        (.ok (addStage { r with phase := .executing } stage, stage.isAborted)) ended

theorem prepare_prepares (s : Suite σ) (deadline : Option Moment) (r : BenchmarkResult) (c : Course σ) :
    Prepares s deadline r c (s.prepareAndExecute deadline r c).1 (s.prepareAndExecute deadline r c).2 := by
  rw [prepareAndExecute]
  dsimp only
  cases hooks : Hook.bracket s.services (.beforeBenchmark r.benchmark) (some r.benchmark)
      r.benchmark.beforeBenchmark c with
  | mk prepared begun =>
      cases prepared with
      | error halt =>
          cases halt with
          | failed cause => exact .refused hooks
          | crashed panic => exact .unwound hooks
      | ok =>
          dsimp only
          cases executes : s.execute r.benchmark deadline begun with
          | mk executed ended =>
              cases executed with
              | ok stage => exact .staged hooks executes
              | error halt =>
                  cases halt with
                  | failed cause => exact .failed hooks executes
                  | crashed panic => exact .crashed hooks executes

section Prepared

variable {s : Suite σ} {deadline : Option Moment} {r : BenchmarkResult} {c ended : Course σ}
  {staged : BenchmarkResult} {isAborted : Bool}

theorem prepared_prepares (returned : s.prepareAndExecute deadline r c = (.ok (staged, isAborted), ended)) :
    Prepares s deadline r c (.ok (staged, isAborted)) ended := by
  have prepares := prepare_prepares s deadline r c
  rwa [returned] at prepares

theorem prepare_fills
    (returned : s.prepareAndExecute deadline r c = (.ok (staged, isAborted), ended)) :
    ∃ phase failures executions,
      staged = { r with phase := phase, failures := failures, executions := executions } := by
  cases prepared_prepares returned with
  | refused => exact ⟨_, _, _, rfl⟩
  | failed => exact ⟨_, _, _, rfl⟩
  | @staged stage =>
      rw [addStage]
      cases stage.isInterrupted <;> cases stage.isTimedOut <;> exact ⟨_, _, _, rfl⟩

theorem prepare_results (fresh : r.executions = [])
    (returned : s.prepareAndExecute deadline r c = (.ok (staged, isAborted), ended)) :
    staged.executions = [] ∨
      ∃ planned begun, (planned.Pairwise fun a b => a.number < b.number) ∧
        staged.executions = ((s.pool r.benchmark deadline).run planned begun).results := by
  cases prepared_prepares returned with
  | refused => exact .inl fresh
  | failed => exact .inl fresh
  | @staged stage begun _ hooks stages =>
      have executes := execute_executes s r.benchmark deadline begun
      rw [stages] at executes
      cases executes with
      | cutShort => exact .inl (attributed_executions _ _)
      | @measured templates planned begun loads warms fits plans =>
          exact .inr ⟨planned, begun, Plan.executions_ascend plans, attributed_executions _ _⟩

end Prepared

theorem pool_accounts {p : Pool σ} (records : p.recordsCrashes = true) {planned : List Execution}
    (ascending : planned.Pairwise fun a b => a.number < b.number) {c : Course σ}
    (goesOn : (poolStage p planned c).isInterrupted = false) :
    Accounts planned (poolStage p planned c).executions (poolStage p planned c).isAborted := by
  have reached := (Pool.run_reached p planned c).1
  have isDone := Pool.run_done p planned c
  constructor
  · intro unaborted
    refine Pool.all_reported_in_order records ascending reached isDone ?_
    simp only [poolStage] at goesOn unaborted
    cases interrupted : p.isInterrupted (p.run planned c).course with
    | true =>
        simp only [interrupted, Bool.and_true, decide_eq_false_iff_not] at goesOn
        exact .inr (Nat.le_of_not_lt goesOn)
    | false =>
        simp only [interrupted, Bool.not_false, Bool.and_true] at unaborted
        exact .inl (by simp [Pool.isStopped, interrupted, unaborted])
  · intro aborted
    exact Pool.stopped_itself reached (Bool.and_eq_true_iff.mp aborted).1

theorem execute_accounts {s : Suite σ} {b : Benchmark} {deadline : Option Moment} {c ended : Course σ}
    {stage : Stage} (executed : s.execute b deadline c = (.ok stage, ended))
    (goesOn : stage.isInterrupted = false) (inTime : stage.isTimedOut = false) :
    ∃ planned, s.Plans b planned ∧ Accounts planned stage.executions stage.isAborted := by
  have executes := execute_executes s b deadline c
  rw [executed] at executes
  cases executes with
  | cutShort => cases attributed_goes_on goesOn inTime
  | @measured templates planned begun loads warms fits plans =>
      refine ⟨planned, ⟨templates, loads, plans⟩, ?_⟩
      rw [attributed_executions, attributed_aborted]
      exact pool_accounts rfl (Plan.executions_ascend plans) (attributed_goes_on goesOn inTime)

theorem add_stage_failures {r : BenchmarkResult} {stage : Stage}
    (unfailed : (addStage r stage).failures = []) :
    stage.isInterrupted = false ∧ stage.isTimedOut = false := by
  cases interrupted : stage.isInterrupted <;> cases timedOut : stage.isTimedOut <;>
    simp_all [addStage, BenchmarkResult.addFailure]

theorem prepare_accounts {s : Suite σ} {deadline : Option Moment} {r staged : BenchmarkResult}
    {c ended : Course σ} {isAborted : Bool}
    (returned : s.prepareAndExecute deadline r c = (.ok (staged, isAborted), ended))
    (unfailed : staged.failures = []) :
    ∃ planned, s.Plans r.benchmark planned ∧ Accounts planned staged.executions isAborted := by
  cases prepared_prepares returned with
  | refused => simp [BenchmarkResult.addFailure] at unfailed
  | failed => simp [BenchmarkResult.addFailure] at unfailed
  | staged hooks executes =>
      obtain ⟨goesOn, inTime⟩ := add_stage_failures unfailed
      exact execute_accounts executes goesOn inTime

end SqlBench.Suite
