import SqlBench.Proofs.Pool.Concurrency
import SqlBench.Proofs.Suite.Independence
import SqlBench.Proofs.Suite.News

set_option autoImplicit false

namespace SqlBench

def Benchmark.cold (b : Benchmark) : Benchmark :=
  { b with prewarmRuns := 0 }

-- All but the start of a benchmark is behind its warm-up.
def Echo.behindWarmUp (d : Span) (runs : Nat) : Echo :=
  ⟨0, d, fun _ => runs⟩

-- All of a result but when it was and how warm.
def ExecutionResult.bare (r : ExecutionResult) : ExecutionResult :=
  { r.undated with execution := { r.execution with benchmark := r.execution.benchmark.cold } }

structure BenchmarkResult.Matches (a b : BenchmarkResult) : Prop where
  benchmark : b.benchmark.cold = a.benchmark.cold
  startedAt : b.startedAt = a.startedAt
  phase : b.phase = a.phase
  status : b.status = a.status
  causes : b.failureCauses = a.failureCauses
  executions : b.executions.map ExecutionResult.bare = a.executions.map ExecutionResult.bare
  measurements : b.measurements = a.measurements
  aggregates : b.aggregates = a.aggregates

theorem Echo.bare_result (d : Span) (runs : Nat) (r : ExecutionResult) :
    ((Echo.behindWarmUp d runs).result r).bare = r.bare := by
  have duration := (Echo.behindWarmUp d runs).result_duration r
  simp only [ExecutionResult.bare, ExecutionResult.undated, duration]
  rfl

theorem Echo.report_matches (d : Span) (runs : Nat) (r : BenchmarkResult) :
    r.Matches ((Echo.behindWarmUp d runs).report r) where
  benchmark := rfl
  startedAt := Nat.zero_add r.startedAt
  phase := rfl
  status := (Echo.behindWarmUp d runs).report_status r
  causes := (Echo.behindWarmUp d runs).report_causes r
  executions := by
    have same : ExecutionResult.bare ∘ (Echo.behindWarmUp d runs).result = ExecutionResult.bare :=
      funext (Echo.bare_result d runs)
    rw [Echo.report, List.map_map, same]
  measurements := rfl
  aggregates := rfl

namespace Suite

variable {σ : Type} {s : Suite σ} {b : Benchmark} {c x x' : Course σ} {before before' : List (Moment × Event)}

theorem warm_up_silent (steady : s.services.Steady) {source : Plan.Source} {begun : Course σ}
    (unasked : c.stop = .never) (warms : s.warmUp source c = .ok begun) :
    c.Silent begun ∧ begun.stop = .never := by
  rw [warmUp] at warms
  split at warms
  · cases warms
    exact ⟨.refl c, unasked⟩
  · cases plans : Plan.executions source source.benchmark.prewarmRuns with
    | error cause =>
        rw [plans] at warms
        cases warms
    | ok planned =>
        rw [plans] at warms
        cases fits : (s.pool source.benchmark none).setUp with
        | error halt =>
            rw [fits] at warms
            cases warms
        | ok =>
            rw [fits] at warms
            cases warms
            exact ⟨Pool.quiet_run rfl planned c, run_unasked steady planned unasked⟩

theorem warm_up_planned {source : Plan.Source} {planned : List Execution}
    (plans : Plan.executions source source.benchmark.prewarmRuns = .ok planned) (c : Course σ) :
    (∃ begun, s.warmUp source c = .ok begun) ∨
      ∃ halt, (s.pool source.benchmark none).setUp = .error halt ∧ s.warmUp source c = .error halt := by
  rw [warmUp]
  split
  · exact .inl ⟨c, rfl⟩
  · rw [plans]
    cases (s.pool source.benchmark none).setUp with
    | ok => exact .inl ⟨_, rfl⟩
    | error halt => exact .inr ⟨halt, rfl, rfl⟩

theorem silent_echoes (runs : Nat) (silent : x'.Silent c) (now : x'.now = x.now) (tick : x'.tick = x.tick)
    (untold : x.events = before) (untold' : x'.events = before') (unasked : x.stop = .never)
    (unasked' : c.stop = .never) :
    Course.Echoes (.behindWarmUp (c.now - x.now) runs) before before' x c := by
  have later : x.now ≤ c.now := now ▸ silent.now
  refine ⟨(Nat.sub_add_cancel later).symm, silent.tick.trans tick, unasked, unasked', [], ?_, ?_⟩
  · rw [untold, List.append_nil]
  · rw [silent.events, untold', List.map_nil, List.append_nil]

-- The hooks before a benchmark have said nothing yet, so the measured runs begin an echo.
theorem execute_behind_warm_up (steady : s.services.Steady)
    (impartial : ∀ d, s.services.collector.Impartial (.behindWarmUp d b.prewarmRuns))
    {templates : Dict QueryFile} (loads : Plan.templates s.services.queries b = .ok templates)
    {planned : List Execution} (plans : Plan.executions (s.loaded b templates) b.prewarmRuns = .ok planned)
    (untold : x.events = before) (untold' : x'.events = before')
    (echoes : Course.Echoes (.behindWarmUp 0 b.prewarmRuns) before before' x x') :
    ∃ d, Executed (.behindWarmUp d b.prewarmRuns) before before'
      (s.execute b.cold none x) (s.execute b none x') := by
  have loads' : Plan.templates s.services.queries b.cold = .ok templates := loads
  have cold : s.warmUp (s.loaded b.cold templates) x = .ok x := rfl
  rw [execute_warmed steady loads' echoes.stop, execute_warmed steady loads echoes.stop', cold]
  rcases warm_up_planned (s := s) plans x' with ⟨begun, warms⟩ | ⟨halt, fails, unfit⟩
  · obtain ⟨silent, unasked⟩ := warm_up_silent steady echoes.stop' warms
    have now : x'.now = x.now := echoes.now.trans (Nat.zero_add x.now)
    have begins := silent_echoes b.prewarmRuns silent now echoes.tick untold untold' echoes.stop unasked
    rw [warms]
    exact ⟨_, measure_echoes steady (impartial _) (s.loaded b.cold templates) begins⟩
  · refine ⟨0, ?_⟩
    dsimp only
    have unfit' : (s.pool (s.loaded b.cold templates).benchmark none).setUp = .error halt := fails
    rw [unfit, measure_unfit unfit']
    exact ⟨rfl, echoes⟩

theorem stages_behind_warm_up (steady : s.services.Steady)
    (impartial : ∀ d, s.services.collector.Impartial (.behindWarmUp d b.prewarmRuns))
    (renders : ∀ templates, Plan.templates s.services.queries b = .ok templates →
      ∃ planned, Plan.executions (s.loaded b templates) b.prewarmRuns = .ok planned)
    (unasked : c.stop = .never) :
    ∃ d, Stages (.behindWarmUp d b.prewarmRuns) (c.post (.benchmarkStarted b.cold)).events
      (c.post (.benchmarkStarted b)).events (s.stages none b.cold c) (s.stages none b c) := by
  have started : Course.Echoes (.behindWarmUp 0 b.prewarmRuns) (c.post (.benchmarkStarted b.cold)).events
      (c.post (.benchmarkStarted b)).events (c.post (.benchmarkStarted b.cold)) (c.post (.benchmarkStarted b)) :=
    ⟨(Nat.zero_add c.now).symm, rfl, unasked, unasked, [], by simp, by simp⟩
  obtain ⟨outcome, hooks⟩ : Hook.Alike (.behindWarmUp 0 b.prewarmRuns) _ _ (s.hooked b.cold c)
      (s.hooked b c) :=
    Hook.bracket_echoes steady started (.beforeBenchmark b.cold) (.beforeBenchmark b) (some b.cold)
      b.beforeBenchmark
  have since : c.now = 0 + c.now := (Nat.zero_add c.now).symm
  cases loads : Plan.templates s.services.queries b with
  | error cause =>
      have loads' : Plan.templates s.services.queries b.cold = .error cause := loads
      have executed : Executed (.behindWarmUp 0 b.prewarmRuns) (c.post (.benchmarkStarted b.cold)).events
          (c.post (.benchmarkStarted b)).events (s.execute b.cold none (s.hooked b.cold c).2)
          (s.execute b none (s.hooked b c).2) := by
        rw [execute_unloaded loads, execute_unloaded loads']
        exact ⟨rfl, hooks⟩
      exact ⟨0, stages_echoes (b := b.cold) since outcome (fun _ _ => hooks) fun _ => executed⟩
  | ok templates =>
      cases prepared : (s.hooked b.cold c).1 with
      | error halt =>
          refine ⟨0, stages_echoes (b := b.cold) since outcome (fun _ _ => hooks) fun fine => ?_⟩
          rw [prepared] at fine
          cases fine
      | ok =>
          have silent := Hook.silent_bracket s.services
          obtain ⟨planned, plans⟩ := renders templates loads
          obtain ⟨d, executed⟩ := execute_behind_warm_up steady impartial loads plans
            (silent _ _ _ _).events (silent _ _ _ _).events hooks
          refine ⟨d, stages_echoes (b := b.cold) since outcome (fun halt failed => ?_) fun _ => executed⟩
          rw [prepared] at failed
          cases failed

/-- A warm-up only delays what comes behind it. -/
theorem warm_up_unseen (s : Suite σ) (b : Benchmark) (c : Course σ) (valid : b.validate = .ok ())
    (renders : ∀ templates, Plan.templates s.services.queries b = .ok templates →
      ∃ planned, Plan.executions (s.loaded b templates) b.prewarmRuns = .ok planned)
    (steady : s.services.Steady)
    (impartial : ∀ d, s.services.collector.Impartial (.behindWarmUp d b.prewarmRuns))
    (unlimited : s.timeLimit = none) (unasked : c.stop = .never) :
    ∃ d told,
      (s.runBenchmark b c).1 =
        (s.runBenchmark b.cold c).1.map (Echo.behindWarmUp d b.prewarmRuns).report ∧
      (∀ r r', (s.runBenchmark b.cold c).1 = .ok r → (s.runBenchmark b c).1 = .ok r' →
        BenchmarkResult.Matches r r') ∧
      (s.runBenchmark b.cold c).2.events = c.events ++ (c.now, .benchmarkStarted b.cold) :: told ∧
      (s.runBenchmark b c).2.events = c.events ++ (c.now, .benchmarkStarted b) ::
        told.map (Echo.behindWarmUp d b.prewarmRuns).heard := by
  have endless : s.deadline c.now = none := by
    rw [deadline, unlimited]
    rfl
  have tells : s.tellsDeadline c.now = true := by
    rw [tellsDeadline, unlimited]
    rfl
  have runs (b : Benchmark) (valid : b.validate = .ok ()) :
      s.runBenchmark b c = s.concluded (s.stages none b c) := by
    rw [runBenchmark, if_pos tells, endless, run_until_accepts valid, run_accepted_concluded]
  obtain ⟨d, stages⟩ := stages_behind_warm_up steady impartial renders unasked
  obtain ⟨report, echoes⟩ := concluded_echoes steady (impartial d) stages
  obtain ⟨told, whole, whole'⟩ := echoes.events
  rw [runs b valid, runs b.cold valid]
  refine ⟨d, told, report, fun r r' cold warm => ?_, ?_, ?_⟩
  · rw [cold, warm] at report
    cases report
    exact Echo.report_matches d b.prewarmRuns r
  · rw [whole, Course.events_post, List.append_assoc]
    rfl
  · rw [whole', Course.events_post, List.append_assoc]
    rfl

def strictSuite : Suite Unit :=
  { erraticSuite with failurePolicy := .abort }

def warmCrashing : Benchmark :=
  { crashing with prewarmRuns := 3 }

theorem crashing_warm_up_unseen :
    ∃ r r' later later', strictSuite.runBenchmark warmCrashing.cold (.start .never ()) = (.ok r, later) ∧
      strictSuite.runBenchmark warmCrashing (.start .never ()) = (.ok r', later') ∧
      r.finishedAt = some 4 ∧ r'.finishedAt = some 14 ∧
      r'.executions.map ExecutionResult.isSuccessful = [false, true] ∧ BenchmarkResult.Matches r r' := by
  have planned : ((Plan.templates erratic.queries warmCrashing).bind fun templates =>
      Plan.executions (strictSuite.loaded warmCrashing templates) 3).isOk = true := by
    decide +kernel
  have renders : ∀ templates, Plan.templates erratic.queries warmCrashing = .ok templates →
      ∃ planned, Plan.executions (strictSuite.loaded warmCrashing templates) 3 = .ok planned := by
    intro templates loads
    rw [loads] at planned
    cases plans : Plan.executions (strictSuite.loaded warmCrashing templates) 3 with
    | error cause => simp [Except.bind, plans, Except.isOk, Except.toBool] at planned
    | ok warmUp => exact ⟨warmUp, rfl⟩
  have impartial : ∀ d, erratic.collector.Impartial (.behindWarmUp d 3) := fun d =>
    Collector.standard_impartial (fun _ _ _ => rfl) (.behindWarmUp d 3)
  obtain ⟨r, later, cold, ended⟩ := Course.shown_given
    (strictSuite.runBenchmark warmCrashing.cold (.start .never ())) BenchmarkResult.finishedAt (some 4)
    (by decide +kernel)
  obtain ⟨r', later', warm, seen⟩ := Course.shown_given
    (strictSuite.runBenchmark warmCrashing (.start .never ()))
    (fun r => (r.finishedAt, r.executions.map ExecutionResult.isSuccessful)) (some 14, [false, true])
    (by decide +kernel)
  obtain ⟨ended', marks⟩ := Prod.mk.inj seen
  obtain ⟨d, told, -, same, -, -⟩ := warm_up_unseen strictSuite warmCrashing (.start .never ()) rfl renders
    erratic_steady impartial rfl rfl
  exact ⟨r, r', later, later', cold, warm, ended, ended', marks,
    same r r' (congrArg Prod.fst cold) (congrArg Prod.fst warm)⟩

end Suite

end SqlBench
