import SqlBench.Proofs.Suite.Abort
import SqlBench.Proofs.Suite.Lasting
import SqlBench.Proofs.Suite.Unwinding

set_option autoImplicit false

namespace SqlBench.Suite

variable {σ : Type}

def Missing (planned : List Execution) (executions : List ExecutionResult) : Prop :=
  ∃ e ∈ planned, ∀ r ∈ executions, r.execution ≠ e

theorem nothing_missing {planned : List Execution} {executions : List ExecutionResult}
    (whole : executions.map ExecutionResult.execution = planned) : ¬ Missing planned executions := by
  rintro ⟨e, member, unreported⟩
  rw [← whole] at member
  obtain ⟨r, reported, own⟩ := List.mem_map.mp member
  exact unreported r reported own

theorem fewer_missing {planned : List Execution} {executions : List ExecutionResult}
    (distinct : planned.Nodup) (fewer : executions.length < planned.length) :
    Missing planned executions := by
  by_contra whole
  have all : planned ⊆ executions.map ExecutionResult.execution := by
    intro e member
    by_contra unreported
    refine whole ⟨e, member, fun r reported own => unreported ?_⟩
    exact List.mem_map.mpr ⟨r, reported, own⟩
  have enough := (List.Nodup.subperm distinct all).length_le
  rw [List.length_map] at enough
  omega

structure Ready (s : Suite σ) (b : Benchmark) (c : Course σ) (planned : List Execution) : Prop where
  valid : b.validate = .ok ()
  prepared : (s.beforeHooks b (c.post (.benchmarkStarted b))).1 = .ok ()
  plans : s.Plans b planned
  warmUp : ∃ templates planned, Plan.templates s.services.queries b = .ok templates ∧
    Plan.executions ⟨b, templates, s.services.queries.environment⟩ b.prewarmRuns = .ok planned

-- What a stage tells before an interruption is put down to the caller or to the deadline.
structure Told (s : Suite σ) (deadline : Option Moment) (planned : List Execution) (stage : Stage)
    (ended : Course σ) : Prop where
  interrupted : stage.isInterrupted = true ↔ Missing planned stage.executions ∧
    (ended.isStopped = true ∨ isReached deadline ended.now = true)
  uninterrupted : Missing planned stage.executions → stage.isInterrupted = false →
    stage.isAborted = true
  aborted : stage.isAborted = true → s.failurePolicy = .abort ∧ HasFailure stage.executions
  inTime : stage.isTimedOut = false

section Stage

variable {s : Suite σ} {c : Course σ} {planned : List Execution} (deadline : Option Moment)

theorem pool_told (b : Benchmark) (ascending : planned.Pairwise fun a b => a.number < b.number) :
    Told s deadline planned (poolStage (s.pool b deadline) planned c)
      ((s.pool b deadline).run planned c).course := by
  let p := s.pool b deadline
  have reached := (Pool.run_reached p planned c).1
  have isDone := Pool.run_done p planned c
  have distinct : planned.Nodup :=
    ascending.imp fun less same => absurd (congrArg Execution.number same) (Nat.ne_of_lt less)
  have missing : (p.run planned c).results.length < planned.length ↔
      Missing planned (p.run planned c).results := by
    constructor
    · exact fewer_missing distinct
    · intro missing
      by_contra enough
      exact nothing_missing (Pool.all_reported_in_order rfl ascending reached isDone
        (.inr (Nat.le_of_not_lt enough))) missing
  refine ⟨?_, ?_, ?_, rfl⟩
  · rw [poolStage, Bool.and_eq_true, decide_eq_true_eq, pool_interrupted]
    exact and_congr_left fun _ => missing
  · intro missing goesOn
    rcases (pool_accounts rfl ascending goesOn).whole_or_aborted with whole | ⟨aborted, -⟩
    · exact absurd missing (nothing_missing whole)
    · exact aborted
  · intro aborted
    have stopped := (Bool.and_eq_true_iff.mp aborted).1
    refine ⟨?_, Pool.stopped_itself reached stopped⟩
    exact of_decide_eq_true ((Pool.reached_orderly reached).stopped stopped).1

theorem cut_short_told {b : Benchmark} {templates : Dict QueryFile} (valid : b.validate = .ok ())
    (plans : Plan.executions (s.loaded b templates) b.runs = .ok planned)
    (interrupted : (s.pool b deadline).isInterrupted c = true) :
    Told s deadline planned ⟨[], false, true, false⟩ c := by
  have missing : Missing planned [] := by
    have nonempty := Plan.valid_plan_some (s := s.loaded b templates) valid plans
    obtain ⟨e, rest, same⟩ := List.exists_cons_of_ne_nil nonempty
    exact ⟨e, by rw [same]; exact List.mem_cons_self, by simp⟩
  refine ⟨?_, ?_, ?_, rfl⟩
  · exact iff_of_true rfl ⟨missing, (pool_interrupted s b deadline c).mp interrupted⟩
  · intro _ goesOn
    cases goesOn
  · intro aborted
    cases aborted

structure Explained (s : Suite σ) (deadline : Option Moment) (planned : List Execution) (stage : Stage)
    (ended : Course σ) : Prop where
  interrupted : stage.isInterrupted = true ↔
    Missing planned stage.executions ∧ ended.isStopped = true
  timedOut : stage.isTimedOut = true ↔ Missing planned stage.executions ∧
    ended.isStopped = false ∧ isReached deadline ended.now = true
  uninterrupted : Missing planned stage.executions → stage.isInterrupted = false →
    stage.isTimedOut = false → stage.isAborted = true
  aborted : stage.isAborted = true → s.failurePolicy = .abort ∧ HasFailure stage.executions

theorem told_explained {deadline : Option Moment} {stage : Stage} (told : Told s deadline planned stage c) :
    Explained s deadline planned (attributed stage c) c := by
  cases interrupted : stage.isInterrupted with
  | false =>
      have nobody : ¬ (Missing planned stage.executions ∧
          (c.isStopped = true ∨ isReached deadline c.now = true)) := by
        rw [← told.interrupted, interrupted]
        exact Bool.false_ne_true
      simp only [attributed, interrupted, Bool.false_and, Bool.false_eq_true, if_false]
      refine ⟨?_, ?_, fun missing _ _ => told.uninterrupted missing interrupted, told.aborted⟩
      · refine iff_of_false (by simp [interrupted]) ?_
        rintro ⟨missing, stopped⟩
        exact nobody ⟨missing, .inl stopped⟩
      · refine iff_of_false (by simp [told.inTime]) ?_
        rintro ⟨missing, -, reached⟩
        exact nobody ⟨missing, .inr reached⟩
  | true =>
      obtain ⟨missing, why⟩ := told.interrupted.mp interrupted
      cases stopped : c.isStopped with
      | true =>
          simp only [attributed, interrupted, stopped, Bool.not_true, Bool.and_false,
            Bool.false_eq_true, if_false]
          refine ⟨?_, ?_, ?_, told.aborted⟩
          · exact iff_of_true interrupted ⟨missing, stopped⟩
          · exact iff_of_false (by simp [told.inTime]) (by simp [stopped])
          · simp [interrupted]
      | false =>
          have reached := why.resolve_left (by simp [stopped])
          simp only [attributed, interrupted, stopped, Bool.not_false, Bool.and_true, if_true]
          refine ⟨?_, ?_, ?_, told.aborted⟩
          · exact iff_of_false (by simp) (by simp [stopped])
          · exact iff_of_true rfl ⟨missing, stopped, reached⟩
          · simp

theorem execute_explained {b : Benchmark} {ended : Course σ} {outcome : Except Halt Stage}
    (valid : b.validate = .ok ()) (plans : s.Plans b planned)
    (warmUp : ∃ templates warmUp, Plan.templates s.services.queries b = .ok templates ∧
      Plan.executions ⟨b, templates, s.services.queries.environment⟩ b.prewarmRuns = .ok warmUp)
    (executed : s.execute b deadline c = (outcome, ended)) :
    (∃ panic, outcome = .error (.crashed panic)) ∨
      ∃ stage, outcome = .ok stage ∧ Explained s deadline planned stage ended := by
  obtain ⟨templates, found, plans⟩ := plans
  obtain ⟨again, warmUp, same, warms⟩ := warmUp
  cases found.symm.trans same
  have executes := execute_executes s b deadline c
  rw [executed] at executes
  cases executes with
  | unloaded fails => cases found.symm.trans fails
  | cold loads fails =>
      cases found.symm.trans loads
      cases warms.symm.trans fails
  | unfit => exact .inl ⟨_, rfl⟩
  | cutShort loads warms fits interrupted =>
      exact .inr ⟨_, rfl, told_explained (cut_short_told deadline valid plans interrupted)⟩
  | unplanned loads warms fits fails =>
      cases found.symm.trans loads
      cases plans.symm.trans fails
  | measured loads warms fits measures =>
      cases found.symm.trans loads
      cases plans.symm.trans measures
      exact .inr ⟨_, rfl, told_explained (pool_told deadline b (Plan.executions_ascend plans))⟩

end Stage

theorem stage_notes {r : BenchmarkResult} (unfailed : r.failures = []) (stage : Stage) :
    (addStage r stage).failures =
      (if stage.isInterrupted then [.interrupted r.benchmark.name] else []) ++
        if stage.isTimedOut then [.timeLimit r.benchmark.name] else [] := by
  cases interrupted : stage.isInterrupted <;> cases timedOut : stage.isTimedOut <;>
    simp [addStage, BenchmarkResult.addFailure, interrupted, timedOut, unfailed]

-- Where a failure comes from that is noted behind the executions.
inductive ComesBehind (s : Suite σ) (r : BenchmarkResult) (ended : Course σ) : Failure → Prop where
  | provider {cause : Failure} (refused : (s.answered r ended).1 = .error (.failed cause)) :
      ComesBehind s r ended cause
  | statistics {cause : Failure} (refused : Statistics.aggregateByName (samples r) = .error cause) :
      ComesBehind s r ended cause
  | hook {cause : Failure}
      (failed : (s.afterHooks r (s.aggregate r ended).2).1 = .error (.failed cause)) :
      ComesBehind s r ended cause

section Notes

variable {s : Suite σ} {deadline : Option Moment} {b : Benchmark} {c : Course σ} {planned : List Execution}

theorem ready_staged (ready : s.Ready b c planned) (p : s.Passage deadline b c) :
    ∃ stage, p.staged = addStage { BenchmarkResult.start b c.now with phase := .executing } stage ∧
      p.isAborted = stage.isAborted ∧ Explained s deadline planned stage p.executed := by
  have prepares := prepared_prepares p.prepares
  generalize p.staged = staged at prepares ⊢
  generalize p.isAborted = isAborted at prepares ⊢
  generalize p.executed = executed at prepares ⊢
  have prepared := ready.prepared
  cases prepares with
  | refused hooks => cases prepared.symm.trans (congrArg Prod.fst hooks)
  | failed hooks executes =>
      rcases execute_explained deadline ready.valid ready.plans ready.warmUp executes with
        ⟨panic, crashed⟩ | ⟨stage, staged, -⟩
      · cases crashed
      · cases staged
  | staged hooks executes =>
      rcases execute_explained deadline ready.valid ready.plans ready.warmUp executes with
        ⟨panic, crashed⟩ | ⟨stage, staged, explained⟩
      · cases crashed
      · cases staged
        exact ⟨_, rfl, rfl, explained⟩

theorem summarise_adds (s : Suite σ) {r found : BenchmarkResult} (ended : Course σ)
    (executions : found.executions = r.executions) :
    ∃ others, (summarise found).failures = found.failures ++ others ∧
      ∀ cause ∈ others, s.ComesBehind r ended cause := by
  have same : samples found = samples r := by
    rw [samples, samples, executions]
  rcases summarise_cases found with ⟨aggregates, -, goes⟩ | ⟨cause, refused, goes⟩
  · rw [goes]
    exact ⟨[], (List.append_nil _).symm, by simp⟩
  · rw [goes]
    exact ⟨[cause], rfl, List.forall_mem_singleton.mpr (.statistics (same ▸ refused))⟩

theorem aggregate_adds {s : Suite σ} {r found : BenchmarkResult} {ended later : Course σ}
    (returned : s.aggregate r ended = (.ok found, later)) :
    ∃ others, found.failures = r.failures ++ others ∧
      ∀ cause ∈ others, s.ComesBehind r ended cause := by
  have sums := aggregate_sums s r ended
  rw [returned] at sums
  cases sums with
  | @answered answer _ answers =>
      have executions : (provided { r with phase := .aggregating } answer).executions = r.executions :=
        (provided_worsens _ answer).executions
      obtain ⟨others, noted, behind⟩ := summarise_adds s ended executions
      cases answer with
      | ok found => exact ⟨others, noted, behind⟩
      | error cause =>
          refine ⟨cause :: others, noted.trans (List.append_assoc _ _ _), ?_⟩
          exact List.forall_mem_cons.mpr ⟨.provider (congrArg Prod.fst answers), behind⟩

theorem failures_behind (p : s.Passage deadline b c) :
    ∃ others, p.result.failures = p.staged.failures ++ others ∧
      ∀ cause ∈ others, s.ComesBehind p.staged p.executed cause := by
  obtain ⟨gathered, asked, provided⟩ := aggregate_adds p.collects
  obtain ⟨cleaned, tidied, hooked, -⟩ := clean_up_adds p.cleans
  have ends : p.result.failures = p.gathered.failures ++ cleaned :=
    congrArg BenchmarkResult.failures tidied
  refine ⟨gathered ++ cleaned, by rw [ends, asked, List.append_assoc], ?_⟩
  refine List.forall_mem_append.mpr ⟨provided, fun cause member => .hook ?_⟩
  have failed := hooked cause member
  rw [afterHooks, aggregate_benchmark p.collects] at failed
  rw [afterHooks, p.collects]
  exact failed

end Notes

-- What the world shows of calls that ask for a stop.
structure Shows (services : Services σ) (asked : σ → Prop) : Prop where
  asks : ∀ call world, (services.take call world).1.requestsStop = true →
    asked (services.take call world).2
  takes : ∀ call world, asked world → asked (services.take call world).2
  answers : ∀ x ∈ services.collector, ∀ subject world, asked world → asked (x.2 subject world).2

-- Only a call can have asked for a stop, neither a deadline nor a pool that stops itself.
structure OnlyAsked (asked : σ → Prop) (c later : Course σ) : Prop where
  moment : later.stop.moment = c.stop.moment
  shown : asked c.world → asked later.world
  made : later.stop.made = true → c.stop.made = true ∨ asked later.world

theorem OnlyAsked.of_same {asked : σ → Prop} {c later : Course σ} (same : later.stop = c.stop)
    (shown : asked c.world → asked later.world) : OnlyAsked asked c later :=
  ⟨by rw [same], shown, fun made => .inl (same ▸ made)⟩

theorem OnlyAsked.trans {asked : σ → Prop} {a b c : Course σ} (former : OnlyAsked asked a b)
    (late : OnlyAsked asked b c) : OnlyAsked asked a c := by
  refine ⟨late.moment.trans former.moment, late.shown ∘ former.shown, fun made => ?_⟩
  rcases late.made made with before | shown
  · rcases former.made before with early | shown
    · exact .inl early
    · exact .inr (late.shown shown)
  · exact .inr shown

theorem settle_only_asked {asked : σ → Prop} (c : Course σ) (call : Call) {promise : Promise}
    (promised : promise.requestsStop = true → asked c.world) :
    OnlyAsked asked c (c.settle call promise).2 := by
  have elapsed : OnlyAsked asked c (c.elapse promise) := by
    refine ⟨rfl, id, fun made => ?_⟩
    rcases Bool.or_eq_true_iff.mp made with before | asks
    · exact .inl before
    · exact .inr (promised asks)
  rcases Course.settle_course c call promise with same | ⟨opened, entry, -, same⟩
  · exact same ▸ elapsed
  · rw [same]
    exact ⟨elapsed.moment, elapsed.shown, elapsed.made⟩

theorem only_asked_lasting {services : Services σ} {asked : σ → Prop} (shows : Shows services asked) :
    Pool.Lasting services (OnlyAsked asked)
      fun c promise => promise.requestsStop = true → asked c.world where
  refl _ := .of_same rfl id
  trans := .trans
  reads _ := .of_same rfl id
  closes c line := by
    cases line <;> exact .of_same rfl id
  takes c call := by
    have shown := shows.takes call c.world
    cases call <;> exact .of_same rfl shown
  promised c call := by
    have asks := shows.asks call c.world
    cases call <;> exact asks
  carries onward promised asks := onward.shown (promised asks)
  settles c call _ promised := settle_only_asked c call promised
  advances _ _ := .of_same rfl id
  starts _ _ := .of_same rfl id
  finishes _ _ := .of_same rfl id
  asks x member c subject := .of_same rfl (shows.answers x member subject c.world)

structure Explains (s : Suite σ) (deadline : Option Moment) (planned : List Execution)
    (r : BenchmarkResult) (ended : Course σ) (notes : List Failure) : Prop where
  missing : Missing planned r.executions →
    notes = [.interrupted r.benchmark.name] ∨ notes = [.timeLimit r.benchmark.name] ∨
      notes = [] ∧ s.failurePolicy = .abort ∧ HasFailure r.executions ∧ r.phase = .failed
  interrupted : .interrupted r.benchmark.name ∈ notes → ended.isStopped = true
  timeLimit : .timeLimit r.benchmark.name ∈ notes →
    isReached deadline ended.now = true ∧ ended.isStopped = false
  whole : ¬ Missing planned r.executions → notes = []

theorem passage_explains {s : Suite σ} {deadline : Option Moment} {b : Benchmark} {c : Course σ}
    {planned : List Execution} (ready : s.Ready b c planned) (p : s.Passage deadline b c) :
    Explains s deadline planned p.result p.executed p.staged.failures := by
  obtain ⟨stage, staged, aborted, explained⟩ := ready_staged ready p
  have own : p.result.benchmark = b := p.result_benchmark
  have same : p.result.executions = stage.executions := by
    rw [p.worsens.executions, staged, addStage]
  have notes : p.staged.failures =
      (if stage.isInterrupted then [.interrupted b.name] else []) ++
        if stage.isTimedOut then [.timeLimit b.name] else [] := by
    rw [staged]
    exact stage_notes rfl stage
  rw [notes]
  constructor
  · intro missing
    rw [same] at missing ⊢
    rw [own]
    cases interrupted : stage.isInterrupted with
    | true =>
        have once : stage.isTimedOut = false := by
          refine Bool.eq_false_iff.mpr fun timedOut => ?_
          have stopped := (explained.interrupted.mp interrupted).2
          rw [(explained.timedOut.mp timedOut).2.1] at stopped
          cases stopped
        exact .inl (by simp [once])
    | false =>
        cases timedOut : stage.isTimedOut with
        | true => exact .inr (.inl rfl)
        | false =>
            have stopped := explained.uninterrupted missing interrupted timedOut
            refine .inr (.inr ⟨rfl, (explained.aborted stopped).1, (explained.aborted stopped).2, ?_⟩)
            rw [p.ending.phase, aborted, stopped]
            rfl
  · intro noted
    cases interrupted : stage.isInterrupted with
    | true => exact (explained.interrupted.mp interrupted).2
    | false =>
        rw [interrupted] at noted
        cases timedOut : stage.isTimedOut <;> simp [timedOut] at noted
  · intro noted
    cases timedOut : stage.isTimedOut with
    | true => exact (explained.timedOut.mp timedOut).2.symm
    | false =>
        rw [timedOut] at noted
        cases interrupted : stage.isInterrupted <;> simp [interrupted] at noted
  · intro whole
    rw [same] at whole
    have uninterrupted : stage.isInterrupted = false :=
      Bool.eq_false_iff.mpr fun interrupted => whole (explained.interrupted.mp interrupted).1
    have inTime : stage.isTimedOut = false :=
      Bool.eq_false_iff.mpr fun timedOut => whole (explained.timedOut.mp timedOut).1
    simp [uninterrupted, inTime]

theorem ready_passes {s : Suite σ} {deadline : Option Moment} {b : Benchmark} {c later : Course σ}
    {planned : List Execution} {r : BenchmarkResult} (ready : s.Ready b c planned)
    (returned : s.runUntil deadline b c = (.ok r, later)) : ∃ p : s.Passage deadline b c, r = p.result := by
  rw [run_until_accepts ready.valid] at returned
  obtain ⟨p, same, -⟩ := run_accepted_returns_iff.mp returned
  exact ⟨p, same⟩

/-- If executions are missing, then what is noted with them tells why, and whoever told it was right.
Failures of providers, of the statistics and of the hooks behind are theirs and come after. -/
theorem missing_executions_explained (s : Suite σ) (deadline : Option Moment) (b : Benchmark)
    (c : Course σ) (planned : List Execution) (ready : s.Ready b c planned) :
    (match s.runUntil deadline b c with
      | (.error panic, _) => s.Unwinds b panic
      | (.ok r, _) => ∃ p : s.Passage deadline b c, r = p.result ∧
          Explains s deadline planned r p.executed p.staged.failures ∧
          ∃ others, r.failures = p.staged.failures ++ others ∧
            ∀ cause ∈ others, s.ComesBehind p.staged p.executed cause) ∧
      ∀ asked, Shows s.services asked → OnlyAsked asked c (s.runUntil deadline b c).2 := by
  constructor
  · cases ran : s.runUntil deadline b c with
    | mk outcome later =>
        cases outcome with
        | error panic =>
            rw [run_until_accepts ready.valid] at ran
            exact accepted_unwinds ran
        | ok r =>
            obtain ⟨p, rfl⟩ := ready_passes ready ran
            exact ⟨p, rfl, passage_explains ready p, failures_behind p⟩
  · intro asked shows
    exact run_until_kept (only_asked_lasting shows) (fun _ _ => .of_same rfl id) deadline b c

def plan (s : Suite σ) (b : Benchmark) (runs : Nat) : Except Failure (List Execution) := do
  let templates ← Plan.templates s.services.queries b
  Plan.executions ⟨b, templates, s.services.queries.environment⟩ runs

theorem ready_of_plan {s : Suite σ} {b : Benchmark} {c : Course σ} (valid : b.validate = .ok ())
    (prepared : (s.beforeHooks b (c.post (.benchmarkStarted b))).1 = .ok ())
    (plans : (s.plan b b.runs).toOption.isSome = true)
    (warms : (s.plan b b.prewarmRuns).toOption.isSome = true) : ∃ planned, s.Ready b c planned := by
  have computes : ∀ runs, (s.plan b runs).toOption.isSome = true → ∃ templates planned,
      Plan.templates s.services.queries b = .ok templates ∧
        Plan.executions ⟨b, templates, s.services.queries.environment⟩ runs = .ok planned := by
    intro runs renders
    cases computed : s.plan b runs with
    | error cause =>
        rw [computed] at renders
        cases renders
    | ok planned =>
        obtain ⟨templates, loaded, plans⟩ := Plan.bind_ok computed
        exact ⟨templates, planned, loaded, plans⟩
  obtain ⟨templates, planned, loaded, found⟩ := computes b.runs plans
  exact ⟨planned, valid, prepared, ⟨templates, loaded, found⟩, computes b.prewarmRuns warms⟩

-- The warm-up ends at 13. The first query fails at 16 and stops the pool, but the time is up at 15.
def limitedSuite : Suite Unit :=
  { haltingSuite with timeLimit := some 15 }

def warmed : Benchmark :=
  { paired with
    concurrency := 1
    prewarmRuns := 1 }

theorem halting_never_asks : Shows limitedSuite.services fun _ => False where
  asks call world asks := by
    cases call with
    | send line statement =>
        by_cases fails : statement = "FAIL" <;>
          simp [limitedSuite, haltingSuite, halting, fails] at asks
    | connect source => cases asks
    | shell hook command environment => cases asks
  takes _ _ asked := asked
  answers _ _ _ _ asked := asked

theorem warmed_out_of_time :
    ∃ planned, limitedSuite.Ready warmed (stopAt none) planned ∧
      ∃ (p : limitedSuite.Passage (some 15) warmed (stopAt none)) (later : Course Unit),
        limitedSuite.runUntil (some 15) warmed (stopAt none) = (.ok p.result, later) ∧
        Missing planned p.result.executions ∧ p.staged.failures = [.timeLimit "paired"] ∧
        p.executed.isStopped = false ∧ later.stop.made ≠ true := by
  obtain ⟨planned, ready⟩ := ready_of_plan (s := limitedSuite) (b := warmed) (c := stopAt none)
    (by decide +kernel) (by decide +kernel) (by decide +kernel) (by decide +kernel)
  obtain ⟨explained, onlyAsked⟩ :=
    missing_executions_explained limitedSuite (some 15) warmed (stopAt none) planned ready
  obtain ⟨r, later, returned, -⟩ := Course.shown_given
    (limitedSuite.runUntil (some 15) warmed (stopAt none)) BenchmarkResult.phase .failed
    (by decide +kernel)
  rw [returned] at explained onlyAsked
  obtain ⟨p, rfl, explains, -⟩ := explained
  have notes : p.staged.failures = [.timeLimit "paired"] :=
    p.staged_shown (f := BenchmarkResult.failures) (by decide +kernel)
  have overdue : .timeLimit p.result.benchmark.name ∈ p.staged.failures := by
    rw [notes, p.result_benchmark]
    exact List.mem_cons_self
  refine ⟨planned, ready, p, later, returned, ?_, notes, (explains.timeLimit overdue).2, fun made => ?_⟩
  · by_contra whole
    rw [explains.whole whole] at notes
    cases notes
  · rcases (onlyAsked _ halting_never_asks).made made with before | asked
    · cases before
    · exact asked

def feigning : Services Unit where
  take call _ :=
    match call with
    | .send _ statement =>
      (if statement = "TIDY" then .instant (.failed (.interrupted "tidied"))
        else ⟨10, 0, false, .rows 1 none⟩, ())
    | _ => (.instant .done, ())
  queries := ⟨.directory [("long.sql", .file "LONG".toUTF8.toList),
    ("tidy.sql", .file "TIDY".toUTF8.toList)], ["."], Dict.empty⟩
  hooks := Dict.empty
  collector := []

def feigningSuite (collector : Collector Unit) : Suite Unit :=
  ⟨{ feigning with collector := collector }, .carryOn, .always, [], [], [], none⟩

def tidied (queries : List String) : Benchmark :=
  { Benchmark.named "tidied" "memory" with
    queries := queries
    afterBenchmark := ["tidy.sql"] }

def cutOff : Provider Unit := fun subject world =>
  match subject with
  | .execution _ => (.instant (.ok []), world)
  | .benchmark r => (.instant (.error (.interrupted r.benchmark.name)), world)

theorem interruptions_feigned :
    (¬ ∀ (s : Suite Unit) (b : Benchmark) (c later : Course Unit) (planned : List Execution)
      (r : BenchmarkResult), s.Ready b c planned → s.runBenchmark b c = (.ok r, later) →
        ¬ Missing planned r.executions → .interrupted b.name ∉ r.failures) ∧
    ¬ ∀ (s : Suite Unit) (b : Benchmark) (c later : Course Unit) (planned : List Execution)
      (r : BenchmarkResult), s.Ready b c planned → s.runBenchmark b c = (.ok r, later) →
        Missing planned r.executions → r.failures.count (.interrupted b.name) ≤ 1 := by
  constructor
  · intro never
    obtain ⟨planned, ready⟩ := ready_of_plan (s := feigningSuite []) (b := tidied ["long"])
      (c := stopAt none) (by decide +kernel) (by decide +kernel) (by decide +kernel) (by decide +kernel)
    obtain ⟨r, later, returned, feigned⟩ := Course.shown_given
      ((feigningSuite []).runBenchmark (tidied ["long"]) (stopAt none)) BenchmarkResult.failures
      [.interrupted "tidied"] (by decide +kernel)
    obtain ⟨p, rfl⟩ := ready_passes ready (run_benchmark_until returned)
    have unfailed : p.staged.failures = [] :=
      p.staged_shown (f := BenchmarkResult.failures) (by decide +kernel)
    refine never _ _ _ _ planned p.result ready returned ?_ ?_
    · intro missing
      rcases (passage_explains ready p).missing missing with noted | noted | ⟨-, strict, -⟩
      · cases unfailed.symm.trans noted
      · cases unfailed.symm.trans noted
      · cases strict
    · rw [feigned]
      exact List.mem_cons_self
  · intro once
    obtain ⟨planned, ready⟩ := ready_of_plan (s := feigningSuite [(.required, cutOff)])
      (b := tidied ["long", "long"]) (c := stopAt (some 5)) (by decide +kernel) (by decide +kernel)
      (by decide +kernel) (by decide +kernel)
    obtain ⟨r, later, returned, twice⟩ := Course.shown_given
      ((feigningSuite [(.required, cutOff)]).runBenchmark (tidied ["long", "long"]) (stopAt (some 5)))
      (fun r => r.failures.count (.interrupted "tidied")) 2 (by decide +kernel)
    obtain ⟨p, rfl⟩ := ready_passes ready (run_benchmark_until returned)
    have noted : p.staged.failures = [.interrupted "tidied"] :=
      p.staged_shown (f := BenchmarkResult.failures) (by decide +kernel)
    have missing : Missing planned p.result.executions := by
      by_contra whole
      rw [(passage_explains ready p).whole whole] at noted
      cases noted
    have most := once _ _ _ _ planned p.result ready returned missing
    rw [show p.result.failures.count (.interrupted (tidied ["long", "long"]).name) = 2 from twice] at most
    exact absurd most (by decide)

end SqlBench.Suite
