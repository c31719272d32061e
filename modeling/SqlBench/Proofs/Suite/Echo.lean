import SqlBench.Proofs.Pool.Echo
import SqlBench.Proofs.Pool.Truncation
import SqlBench.Proofs.Suite.Abort

set_option autoImplicit false

namespace SqlBench

namespace Echo

variable (k : Echo)

def source (source : Plan.Source) : Plan.Source :=
  { source with benchmark := k.benchmark source.benchmark }

def stage (stage : Suite.Stage) : Suite.Stage :=
  { stage with executions := stage.executions.map k.result }

theorem execution_planned (source : Plan.Source) (combination : Attributes) (run number : Nat)
    (query : String) : Plan.execution (k.source source) combination run number query =
      (Plan.execution source combination run number query).map k.execution := by
  have templates : (k.source source).templates = source.templates := rfl
  have environment : (k.source source).environment = source.environment := rfl
  have seen : Plan.context (k.source source).benchmark combination run =
      Plan.context source.benchmark combination run := rfl
  rw [Plan.execution, Plan.execution, templates, environment, seen]
  cases source.templates.get? query with
  | none => rfl
  | some f =>
      dsimp only
      cases Plan.singleStatement source.environment f (Plan.context source.benchmark combination run) <;> rfl

theorem run_planned (source : Plan.Source) (combination : Attributes) (run number : Nat)
    (queries : List String) : Plan.ofRun (k.source source) combination run number queries =
      (Plan.ofRun source combination run number queries).map (List.map k.execution) := by
  induction queries generalizing number with
  | nil => rfl
  | cons query rest ih =>
      rw [Plan.ofRun, Plan.ofRun, execution_planned, ih]
      cases Plan.execution source combination run number query with
      | error cause => rfl
      | ok planned => cases Plan.ofRun source combination run (number + 1) rest <;> rfl

theorem combination_planned (source : Plan.Source) (combination : Attributes) (more run number : Nat) :
    Plan.ofCombination (k.source source) combination more run number =
      (Plan.ofCombination source combination more run number).map (List.map k.execution) := by
  induction more generalizing run number with
  | zero => rfl
  | succ more ih =>
      have queries : (k.source source).benchmark.queries = source.benchmark.queries := rfl
      rw [Plan.ofCombination, Plan.ofCombination, queries, run_planned, ih]
      cases Plan.ofRun source combination run number source.benchmark.queries with
      | error cause => rfl
      | ok planned =>
          cases Plan.ofCombination source combination more (run + 1)
              (number + source.benchmark.queries.length) with
          | error cause => rfl
          | ok others => exact congrArg Except.ok List.map_append.symm

theorem combinations_planned (source : Plan.Source) (runs number : Nat) (all : List Attributes) :
    Plan.ofCombinations (k.source source) runs number all =
      (Plan.ofCombinations source runs number all).map (List.map k.execution) := by
  induction all generalizing number with
  | nil => rfl
  | cons combination rest ih =>
      have queries : (k.source source).benchmark.queries = source.benchmark.queries := rfl
      rw [Plan.ofCombinations, Plan.ofCombinations, queries, combination_planned, ih]
      cases Plan.ofCombination source combination runs 0 number with
      | error cause => rfl
      | ok planned =>
          cases Plan.ofCombinations source runs (number + runs * source.benchmark.queries.length) rest with
          | error cause => rfl
          | ok others => exact congrArg Except.ok List.map_append.symm

theorem executions_planned (source : Plan.Source) (runs : Nat) :
    Plan.executions (k.source source) runs =
      (Plan.executions source runs).map (List.map k.execution) := by
  have combinations : Plan.combinations (k.source source).benchmark =
      Plan.combinations source.benchmark := rfl
  rw [Plan.executions, Plan.executions, combinations]
  cases Plan.combinations source.benchmark with
  | error cause => rfl
  | ok all => exact combinations_planned k source runs 0 all

end Echo

namespace Course

variable {σ ε α β : Type} {k : Echo} {before before' : List (Moment × Event)}

-- What a piece of work gives there is the echo of what it gives here, and so is the course behind it.
def Gives (k : Echo) (before before' : List (Moment × Event)) (f : α → α)
    (done done' : Except ε α × Course σ) : Prop :=
  done'.1 = done.1.map f ∧ Echoes k before before' done.2 done'.2

theorem Gives.then {f : α → α} {g : β → β} {done done' : Except ε α × Course σ}
    {next next' : α → Course σ → Except ε β × Course σ} (gives : Gives k before before' f done done')
    (behind : ∀ a c c', Echoes k before before' c c' →
      Gives k before before' g (next a c) (next' (f a) c')) :
    Gives k before before' g (andThen done next) (andThen done' next') := by
  obtain ⟨outcome, c⟩ := done
  obtain ⟨outcome', c'⟩ := done'
  obtain ⟨same, echoes⟩ := gives
  cases outcome with
  | error e =>
      cases same
      exact ⟨rfl, echoes⟩
  | ok a =>
      cases same
      exact behind a c c' echoes

theorem collect_gives {k : Echo} {collector : Collector σ} (impartial : collector.Impartial k)
    (subject : Subject) (heard : List Measurement) {c c' : Course σ} (echoes : Echoes k before before' c c') :
    (c'.collect (k.subject subject) collector heard).1 = (c.collect subject collector heard).1 ∧
      Echoes k before before' (c.collect subject collector heard).2
        (c'.collect (k.subject subject) collector heard).2 := by
  induction collector generalizing heard c c' with
  | nil => exact ⟨rfl, echoes⟩
  | cons x rest ih =>
      obtain ⟨own, others⟩ := List.forall_mem_cons.mp impartial
      have waited := (echoes.turn (x.2 subject c.world).2 (x.2 (k.subject subject) c'.world).2).wait
        (x.2 subject c.world).1.delay
      rw [collect, collect]
      dsimp only
      rw [own subject c.world c'.world]
      cases x.1.heed heard (x.2 subject c.world).1.finding with
      | ok found => exact ih others found waited
      | error halt => exact ⟨rfl, waited⟩

end Course

namespace Suite

variable {σ : Type} {s : Suite σ} {k : Echo} {before before' : List (Moment × Event)} {c c' : Course σ}

abbrev Executed (k : Echo) (before before' : List (Moment × Event))
    (out out' : Except Halt Stage × Course σ) : Prop :=
  Course.Gives k before before' k.stage out out'

theorem pool_stage_echo {p : Pool σ} (steady : p.services.Steady)
    (impartial : p.services.collector.Impartial k) (endless : p.deadline = none)
    (planned : List Execution) (echoes : Course.Echoes k before before' c c') :
    poolStage p (planned.map k.execution) c' = k.stage (poolStage p planned c) := by
  have states := Pool.run_echoes steady impartial endless planned echoes
  have results := Pool.results_echo states
  have goesOn := Pool.uninterrupted endless states.course.stop
  have goesOn' := Pool.uninterrupted endless states.course.stop'
  simp only [poolStage, Echo.stage, results, states.stopped, goesOn, goesOn', Bool.and_false]

theorem measure_echoes (steady : s.services.Steady) (impartial : s.services.collector.Impartial k)
    (source : Plan.Source) (echoes : Course.Echoes k before before' c c') :
    Executed k before before' (s.measure source none c) (s.measure (k.source source) none c') := by
  have planned := k.executions_planned source source.benchmark.runs
  have runs : (k.source source).benchmark.runs = source.benchmark.runs := rfl
  have same : s.pool (k.source source).benchmark none = s.pool source.benchmark none := rfl
  rcases set_up_cases (s.pool source.benchmark none) with fits | ⟨panic, fails⟩
  · have fits' : (s.pool (k.source source).benchmark none).setUp = .ok () := fits
    cases plans : Plan.executions source source.benchmark.runs with
    | error cause =>
        rw [plans] at planned
        rw [measure_unplanned fits plans, measure_unplanned fits' (runs ▸ planned)]
        exact ⟨rfl, echoes⟩
    | ok executions =>
        rw [plans] at planned
        let p := s.pool source.benchmark none
        have stage := pool_stage_echo (p := p) steady impartial rfl executions echoes
        have states := Pool.run_echoes (p := p) steady impartial rfl executions echoes
        rw [measure_planned fits plans, measure_planned fits' (runs ▸ planned), same]
        exact ⟨congrArg Except.ok stage, states.course⟩
  · have fails' : (s.pool (k.source source).benchmark none).setUp = .error (.crashed panic) := fails
    rw [measure_unfit fails, measure_unfit fails']
    exact ⟨rfl, echoes⟩

def warmUp (s : Suite σ) (source : Plan.Source) (c : Course σ) : Except Halt (Course σ) :=
  if source.benchmark.prewarmRuns = 0 then .ok c
  else
    match Plan.executions source source.benchmark.prewarmRuns, (s.pool source.benchmark none).setUp with
    | .error cause, _ => .error (.failed cause)
    | .ok _, .error halt => .error halt
    | .ok planned, .ok () => .ok ((s.warmUpPool source.benchmark none).run planned c).course

theorem run_unasked {p : Pool σ} (steady : p.services.Steady) (executions : List Execution)
    (unasked : c.stop = .never) : (p.run executions c).course.stop = .never :=
  (Pool.run_kept (Pool.calm_lasting steady.calm) executions c).trans unasked

theorem measure_attributed (steady : s.services.Steady) (source : Plan.Source)
    (unasked : c.stop = .never) :
    (match s.measure source none c with
      | (.error halt, c) => (.error halt, c)
      | (.ok stage, c) => (.ok (attributed stage c), c)) = s.measure source none c := by
  rcases set_up_cases (s.pool source.benchmark none) with fits | ⟨panic, fails⟩
  · cases plans : Plan.executions source source.benchmark.runs with
    | error cause => rw [measure_unplanned fits plans]
    | ok planned =>
        have ended := run_unasked (p := s.pool source.benchmark none) steady planned unasked
        have goesOn := Pool.uninterrupted (p := s.pool source.benchmark none) rfl ended
        rw [measure_planned fits plans]
        simp only [attributed, poolStage, goesOn, Bool.and_false, Bool.false_and, Bool.false_eq_true,
          if_false]
  · rw [measure_unfit fails]

theorem execute_warmed (steady : s.services.Steady) {b : Benchmark} {templates : Dict QueryFile}
    (loads : Plan.templates s.services.queries b = .ok templates) (unasked : c.stop = .never) :
    s.execute b none c =
      match s.warmUp (s.loaded b templates) c with
      | .error halt => (.error halt, c)
      | .ok begun => s.measure (s.loaded b templates) none begun := by
  rw [execute_loaded loads, warmUpAndMeasure, warmUp]
  by_cases cold : (s.loaded b templates).benchmark.prewarmRuns = 0
  · simp only [cold, if_true]
    exact measure_attributed steady _ unasked
  · simp only [cold, if_false, warm_up_set_up]
    cases plans : Plan.executions (s.loaded b templates) (s.loaded b templates).benchmark.prewarmRuns with
    | error cause => rfl
    | ok planned =>
        rcases set_up_cases (s.pool (s.loaded b templates).benchmark none) with fits | ⟨panic, fails⟩
        · let p := s.warmUpPool (s.loaded b templates).benchmark none
          have ended := run_unasked (p := p) steady planned unasked
          have goesOn : p.isInterrupted (p.run planned c).course = false := Pool.uninterrupted rfl ended
          simp only [p] at goesOn
          simp only [fits, goesOn, Bool.false_eq_true, if_false]
          exact measure_attributed steady _ ended
        · simp only [fails]

section Report

abbrev Reports (k : Echo) (before before' : List (Moment × Event))
    (out out' : Except String BenchmarkResult × Course σ) : Prop :=
  Course.Gives k before before' k.report out out'

theorem summarise_echo (k : Echo) (r : BenchmarkResult) :
    summarise (k.report r) = k.report (summarise r) := by
  have same : ((k.report r).executions.filter ExecutionResult.isSuccessful).flatMap
        (fun e => e.measurements) =
      (r.executions.filter ExecutionResult.isSuccessful).flatMap fun e => e.measurements := by
    simp only [Echo.report, List.filter_map, List.flatMap_map]
    rfl
  rw [summarise, summarise, same]
  split <;> rfl

theorem aggregate_echoes (impartial : s.services.collector.Impartial k)
    (echoes : Course.Echoes k before before' c c') (r : BenchmarkResult) :
    Reports k before before' (s.aggregate r c) (s.aggregate (k.report r) c') := by
  obtain ⟨said, asked⟩ :=
    Course.collect_gives impartial (.benchmark { r with phase := .aggregating }) [] echoes
  rw [show k.subject (.benchmark { r with phase := .aggregating }) =
    .benchmark { k.report r with phase := .aggregating } from rfl] at said asked
  rw [aggregate, aggregate]
  dsimp only
  generalize c'.collect (.benchmark { k.report r with phase := .aggregating }) s.services.collector [] =
    done' at said asked ⊢
  generalize c.collect (.benchmark { r with phase := .aggregating }) s.services.collector [] =
    done at said asked ⊢
  obtain ⟨finding', later'⟩ := done'
  obtain ⟨finding, later⟩ := done
  cases said
  cases finding' with
  | ok found =>
      exact ⟨congrArg Except.ok (summarise_echo k { r with phase := .aggregating, measurements := found }),
        asked⟩
  | error halt =>
      cases halt with
      | failed cause =>
          have same := summarise_echo k
            (({ r with phase := .aggregating } : BenchmarkResult).addFailure cause)
          exact ⟨congrArg Except.ok same, asked⟩
      | crashed panic => exact ⟨rfl, asked⟩

theorem skips_echo (k : Echo) (s : Suite σ) (r : BenchmarkResult) :
    s.SkipsCleanUp (k.report r) ↔ s.SkipsCleanUp r := by
  simp only [SkipsCleanUp, Echo.report, List.forall_mem_map]
  rfl

theorem blamed_echo (k : Echo) (r : BenchmarkResult) (cause : Failure) :
    blamed (k.report r) cause = k.report (blamed r cause) := by
  rw [blamed, blamed, Echo.report_successful, Echo.report_fail]
  split <;> rfl

theorem clean_up_echoes (steady : s.services.Steady) (echoes : Course.Echoes k before before' c c')
    (r : BenchmarkResult) : Reports k before before' (s.cleanUp r c) (s.cleanUp (k.report r) c') := by
  obtain ⟨outcome, courses⟩ := Hook.bracket_echoes steady echoes (.afterBenchmark r.benchmark)
    (.afterBenchmark (k.benchmark r.benchmark)) (some r.benchmark) r.benchmark.afterBenchmark
  have tidied : (s.afterHooks (k.report r) c').1 = (s.afterHooks r c).1 := outcome
  have later : Course.Echoes k before before' (s.afterHooks r c).2 (s.afterHooks (k.report r) c').2 :=
    courses
  have skips := skips_echo k s r
  have there := clean_up_tidies s (k.report r) c'
  have here := clean_up_tidies s r c
  generalize s.cleanUp (k.report r) c' = done' at there ⊢
  generalize s.cleanUp r c = done at here ⊢
  obtain ⟨outcome', ended'⟩ := done'
  obtain ⟨outcome, ended⟩ := done
  cases here with
  | skipped own =>
      cases there with
      | skipped => exact ⟨rfl, echoes⟩
      | fine due | failed due | unwound due => exact absurd (skips.mpr own) due
  | fine due hooks =>
      rw [hooks] at tidied later
      cases there with
      | skipped own => exact absurd (skips.mp own) due
      | fine _ hooks' =>
          rw [hooks'] at later
          exact ⟨rfl, later⟩
      | failed _ hooks' | unwound _ hooks' => cases (congrArg Prod.fst hooks').symm.trans tidied
  | failed due hooks =>
      rw [hooks] at tidied later
      cases there with
      | skipped own => exact absurd (skips.mp own) due
      | failed _ hooks' =>
          rw [hooks'] at later
          cases (congrArg Prod.fst hooks').symm.trans tidied
          exact ⟨congrArg Except.ok (blamed_echo k { r with phase := .cleaningUp } _), later⟩
      | fine _ hooks' | unwound _ hooks' => cases (congrArg Prod.fst hooks').symm.trans tidied
  | unwound due hooks =>
      rw [hooks] at tidied later
      cases there with
      | skipped own => exact absurd (skips.mp own) due
      | unwound _ hooks' =>
          rw [hooks'] at later
          cases (congrArg Prod.fst hooks').symm.trans tidied
          exact ⟨rfl, later⟩
      | fine _ hooks' | failed _ hooks' => cases (congrArg Prod.fst hooks').symm.trans tidied

theorem last_phase_echo (k : Echo) (r : BenchmarkResult) (isAborted : Bool) :
    lastPhase (k.report r) isAborted = lastPhase r isAborted := by
  rw [lastPhase, lastPhase, Echo.report_failed, Echo.report_causes]
  simp only [Echo.report, List.any_map]
  rfl

theorem finish_echoes (echoes : Course.Echoes k before before' c c') (r : BenchmarkResult)
    (phase : Phase) : Reports k before before' (finish r phase c) (finish (k.report r) phase c') := by
  have same : (k.report r).finish phase c'.now = k.report (r.finish phase c.now) := by
    rw [echoes.now]
    rfl
  rw [finish, finish, same]
  exact ⟨rfl, echoes.post (.benchmarkFinished _)⟩

abbrev Stages (k : Echo) (before before' : List (Moment × Event))
    (out out' : Except String (BenchmarkResult × Bool) × Course σ) : Prop :=
  Course.Gives k before before' (Prod.map k.report id) out out'

def concluded (s : Suite σ) (staged : Except String (BenchmarkResult × Bool) × Course σ) :
    Except String BenchmarkResult × Course σ :=
  Course.andThen staged fun staged c =>
    Course.andThen (s.aggregate staged.1 c) fun r c =>
      Course.andThen (s.cleanUp r c) fun r c => finish r (lastPhase r staged.2) c

def stages (s : Suite σ) (deadline : Option Moment) (b : Benchmark) (c : Course σ) :
    Except String (BenchmarkResult × Bool) × Course σ :=
  s.prepareAndExecute deadline (.start b c.now) (c.post (.benchmarkStarted b))

theorem run_accepted_concluded (s : Suite σ) (deadline : Option Moment) (b : Benchmark) (c : Course σ) :
    s.runAccepted deadline b c = s.concluded (s.stages deadline b c) :=
  rfl

theorem concluded_echoes (steady : s.services.Steady) (impartial : s.services.collector.Impartial k)
    {staged staged' : Except String (BenchmarkResult × Bool) × Course σ}
    (stages : Stages k before before' staged staged') :
    Reports k before before' (s.concluded staged) (s.concluded staged') := by
  refine stages.then fun staged c c' echoes => ?_
  refine (aggregate_echoes impartial echoes staged.1).then fun gathered c c' echoes => ?_
  refine (clean_up_echoes steady echoes gathered).then fun cleaned c c' echoes => ?_
  rw [last_phase_echo]
  exact finish_echoes echoes cleaned _

def hooked (s : Suite σ) (b : Benchmark) (c : Course σ) : Except Halt Unit × Course σ :=
  s.beforeHooks b (c.post (.benchmarkStarted b))

def filed (r : BenchmarkResult) :
    Except Halt Stage × Course σ → Except String (BenchmarkResult × Bool) × Course σ
  | (.ok stage, c) => (.ok (addStage r stage, stage.isAborted), c)
  | (.error (.failed cause), c) => (.ok (r.addFailure cause, false), c)
  | (.error (.crashed panic), c) => (.error panic, c)

def unready (b : Benchmark) (now : Moment) : Halt → Except String (BenchmarkResult × Bool)
  | .failed cause => .ok ({ BenchmarkResult.start b now with phase := .preparing }.addFailure cause, false)
  | .crashed panic => .error panic

theorem stages_cases (s : Suite σ) (deadline : Option Moment) (b : Benchmark) (c : Course σ) :
    (∃ halt, (s.hooked b c).1 = .error halt ∧
      s.stages deadline b c = (unready b c.now halt, (s.hooked b c).2)) ∨
    ((s.hooked b c).1 = .ok () ∧ s.stages deadline b c =
      filed { BenchmarkResult.start b c.now with phase := .executing }
        (s.execute b deadline (s.hooked b c).2)) := by
  have prepares := prepare_prepares s deadline (.start b c.now) (c.post (.benchmarkStarted b))
  have same : s.beforeHooks (BenchmarkResult.start b c.now).benchmark (c.post (.benchmarkStarted b)) =
    s.hooked b c := rfl
  rw [stages]
  generalize s.prepareAndExecute deadline (.start b c.now) (c.post (.benchmarkStarted b)) =
    done at prepares ⊢
  obtain ⟨outcome, ended⟩ := done
  cases prepares with
  | refused hooks | unwound hooks =>
      rw [same] at hooks
      rw [hooks]
      exact .inl ⟨_, rfl, rfl⟩
  | failed hooks executes | crashed hooks executes | staged hooks executes =>
      rw [same] at hooks
      rw [hooks]
      refine .inr ⟨rfl, ?_⟩
      rw [show s.execute b deadline _ = _ from executes]
      rfl

theorem add_stage_echo (k : Echo) (r : BenchmarkResult) (stage : Stage) :
    addStage (k.report r) (k.stage stage) = k.report (addStage r stage) := by
  obtain ⟨executions, isAborted, isInterrupted, isTimedOut⟩ := stage
  cases isInterrupted <;> cases isTimedOut <;> rfl

theorem filed_echoes {out out' : Except Halt Stage × Course σ} (executed : Executed k before before' out out')
    (r : BenchmarkResult) : Stages k before before' (filed r out) (filed (k.report r) out') := by
  obtain ⟨outcome, c⟩ := out
  obtain ⟨outcome', c'⟩ := out'
  obtain ⟨same, echoes⟩ := executed
  cases outcome with
  | error halt =>
      cases same
      cases halt <;> exact ⟨rfl, echoes⟩
  | ok stage =>
      cases same
      exact ⟨congrArg (fun r => Except.ok (r, stage.isAborted)) (add_stage_echo k r stage), echoes⟩

theorem stages_echoes {b : Benchmark} (since : c'.now = k.since + c.now)
    (outcome : (s.hooked (k.benchmark b) c').1 = (s.hooked b c).1)
    (failed : ∀ halt, (s.hooked b c).1 = .error halt →
      Course.Echoes k before before' (s.hooked b c).2 (s.hooked (k.benchmark b) c').2)
    (ready : (s.hooked b c).1 = .ok () → Executed k before before' (s.execute b none (s.hooked b c).2)
      (s.execute (k.benchmark b) none (s.hooked (k.benchmark b) c').2)) :
    Stages k before before' (s.stages none b c) (s.stages none (k.benchmark b) c') := by
  have start : BenchmarkResult.start (k.benchmark b) c'.now = k.report (.start b c.now) := by
    rw [since]
    rfl
  rcases cases_alike outcome (stages_cases s none b c) (stages_cases s none (k.benchmark b) c') with
    ⟨halt, fails, goes, goes'⟩ | ⟨fine, goes, goes'⟩
  · rw [goes, goes']
    refine ⟨?_, failed halt fails⟩
    cases halt with
    | failed cause =>
        simp only [unready, start]
        rfl
    | crashed panic => rfl
  · rw [goes, goes', start]
    exact filed_echoes (ready fine) _

end Report

end Suite

end SqlBench
