import SqlBench.Proofs.Pool.Life
import SqlBench.Proofs.Pool.Overlap
import SqlBench.Proofs.Statistics
import SqlBench.Proofs.Suite.Abort
import SqlBench.Proofs.Suite.Status

set_option autoImplicit false

namespace SqlBench.Suite

variable {σ : Type}

-- The time from the first start of some executions to their last end.
def Spans (executions : List ExecutionResult) (d : Span) : Prop :=
  ∃ first ∈ executions, ∃ last ∈ executions, d = first.start.spanTo last.finish ∧
    ∀ e ∈ executions, first.start ≤ e.start ∧ e.finish ≤ last.finish

theorem query_duration_spans (r : BenchmarkResult) (d : Span) :
    r.queryDuration = some d ↔ Spans r.executions d := by
  rw [BenchmarkResult.queryDuration, earliest_min, latest_max]
  constructor
  · intro found
    split at found
    · rename_i begun ended starts finishes
      cases found
      obtain ⟨startsThere, starts⟩ := List.min?_eq_some_iff.mp starts
      obtain ⟨endsThere, finishes⟩ := List.max?_eq_some_iff.mp finishes
      obtain ⟨first, memberFirst, rfl⟩ := List.mem_map.mp startsThere
      obtain ⟨last, memberLast, rfl⟩ := List.mem_map.mp endsThere
      exact ⟨first, memberFirst, last, memberLast, rfl, fun e member =>
        ⟨starts _ (List.mem_map_of_mem member), finishes _ (List.mem_map_of_mem member)⟩⟩
    · cases found
  · rintro ⟨first, memberFirst, last, memberLast, rfl, around⟩
    have starts : (r.executions.map ExecutionResult.start).min? = some first.start := by
      refine List.min?_eq_some_iff.mpr ⟨List.mem_map_of_mem memberFirst, fun t member => ?_⟩
      obtain ⟨e, there, rfl⟩ := List.mem_map.mp member
      exact (around e there).1
    have finishes : (r.executions.map ExecutionResult.finish).max? = some last.finish := by
      refine List.max?_eq_some_iff.mpr ⟨List.mem_map_of_mem memberLast, fun t member => ?_⟩
      obtain ⟨e, there, rfl⟩ := List.mem_map.mp member
      exact (around e there).2
    rw [starts, finishes]

theorem span_unique {r : BenchmarkResult} {a b : Span} (one : Spans r.executions a)
    (other : Spans r.executions b) : a = b :=
  Option.some.inj (((query_duration_spans r a).mpr one).symm.trans ((query_duration_spans r b).mpr other))

theorem no_query_duration {r : BenchmarkResult} (timeless : r.queryDuration = none) :
    r.executions = [] := by
  cases executions : r.executions with
  | nil => rfl
  | cons e rest => simp [BenchmarkResult.queryDuration, executions, BenchmarkResult.earliest?,
      BenchmarkResult.latest?] at timeless

-- A time in milliseconds: its whole seconds and the nanoseconds behind them, times a thousand.
def millis (d : Span) : Float :=
  (Float.ofNat (d / 1000000000) + Float.ofNat (d % 1000000000) / 1e9) * 1000.0

def durationOver (d : Span) : Measurement :=
  ⟨"duration", .milliseconds, millis d⟩

def throughputOver (executions : Nat) (d : Span) : Measurement :=
  ⟨"throughput", .queriesPerSecond, Float.ofNat executions / millis d * 1000.0⟩

theorem duration_of (d : Span) : Provider.durationOf d = durationOver d :=
  rfl

theorem throughput_of {r : BenchmarkResult} {d : Span} (together : r.benchmark.isConcurrent = true)
    (sound : r.isSuccessful = true) (lasted : r.queryDuration = some d) (elapsed : d ≠ 0) :
    Provider.throughputOf r = .ok [throughputOver r.executions.length d] := by
  rw [Provider.throughputOf, together, sound, lasted, Bool.and_self, if_pos rfl]
  dsimp only
  rw [if_neg elapsed]
  rfl

inductive Answers (r : BenchmarkResult) : Except Failure (List Measurement) → Prop where
  | alone (alone : r.benchmark.isConcurrent = false) : Answers r (.ok [])
  | idle (nothing : r.executions = []) : Answers r (.ok [])
  | spoilt {d : Span} (spans : Spans r.executions d) (failed : r.isSuccessful = false) :
      Answers r (.ok [durationOver d])
  | instant (spans : Spans r.executions 0) :
      Answers r (.error (.invalid (.zeroTime r.benchmark.name r.executions.length)))
  | earned {d : Span} (together : r.benchmark.isConcurrent = true) (spans : Spans r.executions d)
      (sound : r.isSuccessful = true) (elapsed : 0 < d) :
      Answers r (.ok [durationOver d, throughputOver r.executions.length d])

theorem standard_answers (r : BenchmarkResult) (c : Course σ) :
    ∃ answer : Except Failure (List Measurement),
      (c.collect (.benchmark r) .standard []).1 = answer.mapError .failed ∧ Answers r answer := by
  simp only [Collector.standard, Course.collect, Provider.duration, Provider.throughput]
  cases together : r.benchmark.isConcurrent with
  | false =>
      refine ⟨.ok [], ?_, .alone together⟩
      simp [Provider.throughputOf, together, Answer.instant, Requirement.heed, Except.mapError]
  | true =>
      cases lasted : r.queryDuration with
      | none =>
          refine ⟨.ok [], ?_, .idle (no_query_duration lasted)⟩
          simp [Provider.throughputOf, together, lasted, Answer.instant, Requirement.heed, Except.mapError]
      | some d =>
          have spans := (query_duration_spans r d).mp lasted
          cases sound : r.isSuccessful with
          | false =>
              refine ⟨_, ?_, .spoilt spans sound⟩
              simp [Provider.throughputOf, sound, duration_of, Answer.instant, Requirement.heed,
                Except.mapError]
          | true =>
              by_cases instant : d = 0
              · refine ⟨_, ?_, .instant (instant ▸ spans)⟩
                simp [Provider.throughputOf, together, sound, lasted, instant, Answer.instant,
                  Requirement.heed, Except.mapError]
              · refine ⟨_, ?_, .earned together spans sound (Nat.pos_of_ne_zero instant)⟩
                simp [throughput_of together sound lasted instant, duration_of, Answer.instant,
                  Requirement.heed, Except.mapError]

structure Ran (s : Suite σ) (r : BenchmarkResult) (planned : List Execution) (d : Span) : Prop where
  plans : s.Plans r.benchmark planned
  whole : r.executions.map ExecutionResult.execution = planned
  sound : ∀ e ∈ r.executions, e.isSuccessful = true
  spans : Spans r.executions d

structure Earns (s : Suite σ) (r : BenchmarkResult) : Prop where
  earned : ∀ m ∈ r.measurements, m.name = "throughput" → r.benchmark.isConcurrent = true ∧
    ∃ planned d, Ran s r planned d ∧ 0 < d ∧ m = throughputOver planned.length d
  together : r.status = .success → r.benchmark.isConcurrent = true →
    ∃ planned d, Ran s r planned d ∧ 0 < d ∧
      r.measurements = [durationOver d, throughputOver planned.length d]
  alone : r.status = .success → r.benchmark.isConcurrent = false → r.measurements = []
  instant : r.benchmark.isConcurrent = true → ∀ planned, Ran s r planned 0 →
    r.phase = .failed ∧ r.status = .failed ∧ r.measurements = [] ∧
      r.failures = [.invalid (.zeroTime r.benchmark.name planned.length)]

def Passage.halfDone {s : Suite σ} {deadline : Option Moment} {b : Benchmark} {c : Course σ}
    (p : s.Passage deadline b c) : BenchmarkResult :=
  { p.staged with phase := .aggregating }

section Throughput

variable {s : Suite σ} {deadline : Option Moment} {b : Benchmark} {c : Course σ}
  {planned : List Execution} {answer : Except Failure (List Measurement)}

theorem half_done_fills (p : s.Passage deadline b c) :
    p.halfDone.benchmark = b ∧ p.halfDone.measurements = [] := by
  obtain ⟨phase, failures, executions, fills⟩ := prepare_fills p.prepares
  rw [Passage.halfDone, fills]
  exact ⟨rfl, rfl⟩

theorem half_done_answers (standard : s.services.collector = .standard) (p : s.Passage deadline b c) :
    ∃ answer, Answers p.halfDone answer ∧ p.gathered = summarise (provided p.halfDone answer) := by
  obtain ⟨answer, said, answers⟩ := standard_answers p.halfDone p.executed
  have asked : (s.answered p.staged p.executed).1 = answer.mapError .failed := by
    rw [answered, standard]
    exact said
  have sums := aggregate_sums s p.staged p.executed
  rw [p.collects] at sums
  generalize p.gathered = gathered at sums ⊢
  generalize p.collected = collected at sums
  cases sums with
  | @answered other _ came =>
      have same : other = answer := by
        rw [came] at asked
        cases other <;> cases answer <;> cases asked <;> rfl
      exact ⟨answer, answers, same ▸ rfl⟩

theorem half_done_whole (p : s.Passage deadline b c) (sound : p.halfDone.isSuccessful = true) :
    ∃ planned, s.Plans b planned ∧ p.halfDone.executions.map ExecutionResult.execution = planned ∧
      ∀ e ∈ p.halfDone.executions, e.isSuccessful = true := by
  obtain ⟨-, unfailed, all⟩ := (successful_iff _).mp sound
  obtain ⟨planned, plans, accounts⟩ := prepare_accounts p.prepares unfailed
  refine ⟨planned, plans, accounts.whole_or_aborted.resolve_right ?_, all⟩
  rintro ⟨-, e, member, failed⟩
  cases (all e member).symm.trans failed

theorem passage_keeps (p : s.Passage deadline b c)
    (sums : p.gathered = summarise (provided p.halfDone answer)) :
    p.result.measurements = (provided p.halfDone answer).measurements ∧
      Worsens (provided p.halfDone answer) p.result ∧
      (¬ Statistics.Conflict (samples p.halfDone) → (provided p.halfDone answer).failures ≠ [] →
        p.result.failures = (provided p.halfDone answer).failures) := by
  obtain ⟨more, adds, -, quiet⟩ := clean_up_adds p.cleans
  have same : samples (provided p.halfDone answer) = samples p.halfDone := by
    rw [samples, samples, (provided_worsens p.halfDone answer).executions]
  have measured : p.cleaned.measurements = p.gathered.measurements := by
    rw [adds]
  have failures : p.cleaned.failures = p.gathered.failures ++ more := by
    rw [adds]
  have worse := clean_up_worsens p.cleans
  refine ⟨?_, ?_, fun uniform failed => ?_⟩
  · rw [Passage.result, BenchmarkResult.finish, measured, sums]
    rcases summarise_cases (provided p.halfDone answer) with ⟨_, -, goes⟩ | ⟨_, -, goes⟩ <;> rw [goes]
    rfl
  · have gathered := (summarise_worsens (provided p.halfDone answer))
    rw [← sums] at gathered
    have later := gathered.trans worse
    exact ⟨later.executions, later.failures⟩
  · rcases summarise_cases (provided p.halfDone answer) with ⟨table, -, goes⟩ | ⟨cause, fails, -⟩
    · have kept : p.gathered.failures = (provided p.halfDone answer).failures := by
        rw [sums, goes]
      rw [Passage.result, BenchmarkResult.finish, failures, quiet (kept ▸ failed), List.append_nil, kept]
    · rw [same] at fails
      rcases Statistics.aggregate_by_name_cases (samples p.halfDone) with
        ⟨_, _, clash, -⟩ | ⟨table, made, -⟩
      · exact absurd clash.conflict uniform
      · cases made.symm.trans fails

def Timed (executions : List ExecutionResult) : Prop :=
  ∀ e ∈ executions, ∀ m ∈ e.measurements, m.name = "duration" ∧ m.unit = .milliseconds

theorem standard_collects {others : Course σ → Course σ → Prop} {r : ExecutionResult}
    {c later : Course σ} {finding : Finding}
    (collects : Course.Collects others (.execution r) .standard (.ok []) c finding later) :
    finding = .ok [durationOver r.duration] := by
  rw [Collector.standard] at collects
  cases collects with
  | asked asks between behind =>
      cases asks
      cases behind with
      | asked asks between behind =>
          cases asks
          cases behind
          rfl

theorem pool_timed {p : Pool σ} (standard : p.services.collector = .standard) (planned : List Execution)
    (c : Course σ) : Timed (p.run planned c).results := by
  intro e reported m member
  obtain ⟨place, there⟩ := Pool.mem_results.mp reported
  rcases (Pool.run_lived p planned c).attests.told _ there with isSkipped | ⟨own, told⟩
  · cases isSkipped
  · cases told with
    | recorded => cases member
    | finished came =>
        obtain ⟨begun, -, concludes⟩ := came
        generalize outcome : (Except.ok e : Except String ExecutionResult) = result at concludes
        cases concludes with
        | crashed => cases outcome
        | answered works collects =>
            rw [standard] at collects
            rw [standard_collects collects] at outcome
            cases outcome
            rw [List.mem_singleton.mp member]
            exact ⟨rfl, rfl⟩

theorem timed_uniform {r : BenchmarkResult} (timed : Timed r.executions) :
    ¬ Statistics.Conflict (samples r) := by
  have measured : ∀ m ∈ samples r, m.name = "duration" ∧ m.unit = .milliseconds := by
    intro m member
    obtain ⟨e, there, own⟩ := List.mem_flatMap.mp member
    exact timed e (List.mem_filter.mp there).1 m own
  rintro ⟨a, first, b, second, -, units⟩
  exact units ((measured a first).2.trans (measured b second).2.symm)

theorem half_done_timed (standard : s.services.collector = .standard) (p : s.Passage deadline b c) :
    Timed p.halfDone.executions := by
  rw [Passage.halfDone]
  rcases prepare_results rfl p.prepares with idle | ⟨planned, begun, -, results⟩
  · rw [idle]
    simp [Timed]
  · rw [results]
    exact pool_timed standard planned begun

theorem whole_goes_on (plans : s.Plans b planned) {stage : Stage} {ended : Course σ}
    (executed : s.execute b deadline c = (.ok stage, ended)) (ran : stage.executions ≠ [])
    (whole : stage.executions.map ExecutionResult.execution = planned) :
    stage.isInterrupted = false ∧ stage.isTimedOut = false := by
  have executes := execute_executes s b deadline c
  rw [executed] at executes
  cases executes with
  | cutShort =>
      rw [attributed_executions] at ran
      exact absurd rfl ran
  | @measured templates foreseen begun loads warms fits own =>
      obtain ⟨others, alsoLoads, alsoPlans⟩ := plans
      cases loads.symm.trans alsoLoads
      cases own.symm.trans alsoPlans
      rw [attributed_executions] at whole
      have enough : ((s.pool b deadline).run planned begun).results.length = planned.length := by
        rw [← List.length_map ExecutionResult.execution]
        exact congrArg List.length whole
      have goesOn : (poolStage (s.pool b deadline) planned begun).isInterrupted = false := by
        simp [poolStage, enough]
      rw [attributed, goesOn]
      exact ⟨goesOn, rfl⟩

theorem half_done_clear (plans : s.Plans b planned) (p : s.Passage deadline b c)
    (ran : p.halfDone.executions ≠ [])
    (whole : p.halfDone.executions.map ExecutionResult.execution = planned) :
    p.halfDone.failures = [] := by
  have prepares := prepared_prepares p.prepares
  simp only [Passage.halfDone] at ran whole ⊢
  generalize p.staged = staged at prepares ran whole ⊢
  generalize p.isAborted = isAborted at prepares
  generalize p.executed = executed at prepares
  cases prepares with
  | refused | failed => exact absurd rfl ran
  | staged hooks executes =>
      obtain ⟨goesOn, inTime⟩ := whole_goes_on plans executes ran whole
      simp [addStage, goesOn, inTime, BenchmarkResult.start]

theorem half_done_success (p : s.Passage deadline b c)
    (worse : Worsens (provided p.halfDone answer) p.result) (success : p.result.status = .success) :
    p.halfDone.isSuccessful = true ∧ (provided p.halfDone answer).failures = [] := by
  obtain ⟨-, unfailed, all⟩ := (status_success _).mp success
  have answered : (provided p.halfDone answer).failures = [] :=
    List.prefix_nil.mp (unfailed ▸ worse.failures)
  have before : Worsens p.halfDone (provided p.halfDone answer) := provided_worsens _ _
  have noted : p.halfDone.failures = [] := List.prefix_nil.mp (answered ▸ before.failures)
  rw [worse.executions, before.executions] at all
  exact ⟨(successful_iff _).mpr ⟨by simp [Passage.halfDone], noted, all⟩, answered⟩

theorem rejection_earns (s : Suite σ) (b : Benchmark) (cause : Failure) (c : Course σ) :
    Earns s (rejection b cause c) := by
  refine ⟨by simp [rejection, BenchmarkResult.finish, BenchmarkResult.addFailure, BenchmarkResult.start],
    fun success => ?_, fun _ _ => rfl, fun _ planned ran => ?_⟩
  · exact absurd rfl ((status_success _).mp success).1
  · obtain ⟨first, nobody, -⟩ := ran.spans
    cases nobody

-- How a result goes back to what it was when it was half done, and to the answer that it got then.
structure Concludes (s : Suite σ) (half : BenchmarkResult) (answer : Except Failure (List Measurement))
    (r : BenchmarkResult) : Prop where
  benchmark : r.benchmark = half.benchmark
  executions : r.executions = half.executions
  fresh : half.measurements = []
  measured : r.measurements = (provided half answer).measurements
  ran : ∀ d, half.isSuccessful = true → Spans half.executions d →
    ∃ planned, Ran s r planned d ∧ planned.length = half.executions.length
  success : r.status = .success →
    half.isSuccessful = true ∧ (provided half answer).failures = [] ∧ half.executions ≠ []

theorem passage_concludes (valid : b.validate = .ok ()) (p : s.Passage deadline b c)
    (sums : p.gathered = summarise (provided p.halfDone answer)) :
    Concludes s p.halfDone answer p.result := by
  obtain ⟨measured, worse, -⟩ := passage_keeps p sums
  obtain ⟨own, fresh⟩ := half_done_fills p
  have benchmark := p.result_benchmark
  have executions := worse.executions.trans (provided_worsens _ _).executions
  refine ⟨benchmark.trans own.symm, executions, fresh, measured, fun d sound spans => ?_, fun success => ?_⟩
  · obtain ⟨planned, plans, whole, all⟩ := half_done_whole p sound
    refine ⟨planned, ⟨benchmark.symm ▸ plans, executions ▸ whole, executions ▸ all, executions ▸ spans⟩, ?_⟩
    rw [← whole, List.length_map]
  · obtain ⟨sound, unfailed⟩ := half_done_success p worse success
    refine ⟨sound, unfailed, fun nothing => ?_⟩
    obtain ⟨planned, ⟨templates, -, plans⟩, whole, -⟩ := half_done_whole p sound
    rw [nothing] at whole
    exact Plan.valid_plan_some (s := ⟨b, templates, _⟩) valid plans whole.symm

theorem throughput_earned {half r : BenchmarkResult} {answer : Except Failure (List Measurement)}
    (answers : Answers half answer) (concludes : Concludes s half answer r) {m : Measurement}
    (member : m ∈ r.measurements) (named : m.name = "throughput") :
    r.benchmark.isConcurrent = true ∧
      ∃ planned d, Ran s r planned d ∧ 0 < d ∧ m = throughputOver planned.length d := by
  rw [concludes.measured] at member
  cases answers with
  | alone => cases member
  | idle => cases member
  | spoilt spans failed =>
      rw [List.mem_singleton.mp member] at named
      simp [durationOver] at named
  | instant spans =>
      rw [provided, BenchmarkResult.addFailure, concludes.fresh] at member
      cases member
  | @earned d together spans sound elapsed =>
      obtain ⟨planned, ran, length⟩ := concludes.ran d sound spans
      refine ⟨concludes.benchmark ▸ together, planned, d, ran, elapsed, ?_⟩
      rcases List.mem_cons.mp member with duration | throughput
      · rw [duration] at named
        simp [durationOver] at named
      · rw [length, List.mem_singleton.mp throughput]

theorem success_measured {half r : BenchmarkResult} {answer : Except Failure (List Measurement)}
    (answers : Answers half answer) (concludes : Concludes s half answer r)
    (success : r.status = .success) :
    (r.benchmark.isConcurrent = false → r.measurements = []) ∧
      (r.benchmark.isConcurrent = true → ∃ planned d, Ran s r planned d ∧ 0 < d ∧
        r.measurements = [durationOver d, throughputOver planned.length d]) := by
  obtain ⟨sound, unfailed, ran⟩ := concludes.success success
  rw [concludes.benchmark, concludes.measured]
  cases answers with
  | alone serial => exact ⟨fun _ => rfl, fun together => by simp [serial] at together⟩
  | idle nothing => exact absurd nothing ran
  | spoilt spans failed => simp [sound] at failed
  | instant => simp [provided, BenchmarkResult.addFailure] at unfailed
  | @earned d together spans _ elapsed =>
      obtain ⟨planned, ran, length⟩ := concludes.ran d sound spans
      exact ⟨fun serial => by simp [together] at serial,
        fun _ => ⟨planned, d, ran, elapsed, by rw [length]; rfl⟩⟩

theorem instant_fails (standard : s.services.collector = .standard) (valid : b.validate = .ok ())
    (together : b.isConcurrent = true) (p : s.Passage deadline b c) (ran : Ran s p.result planned 0) :
    p.result.failures = [.invalid (.zeroTime b.name planned.length)] ∧ p.result.measurements = [] := by
  obtain ⟨answer, answers, sums⟩ := half_done_answers standard p
  have concludes := passage_concludes valid p sums
  obtain ⟨own, fresh⟩ := half_done_fills p
  obtain ⟨plans, whole, all, spans⟩ := ran
  rw [p.result_benchmark] at plans
  rw [concludes.executions] at whole all spans
  obtain ⟨first, member, -⟩ := id spans
  have unfailed := half_done_clear plans p (List.ne_nil_of_mem member) whole
  have sound : p.halfDone.isSuccessful = true :=
    (successful_iff _).mpr ⟨by simp [Passage.halfDone], unfailed, all⟩
  have length : planned.length = p.halfDone.executions.length := by
    rw [← whole, List.length_map]
  have refused : answer = .error (.invalid (.zeroTime b.name planned.length)) := by
    rw [length]
    cases answers with
    | alone serial => simp [own, together] at serial
    | idle nothing => exact absurd nothing (List.ne_nil_of_mem member)
    | spoilt _ failed => simp [sound] at failed
    | instant => rw [own]
    | earned _ others _ elapsed => exact absurd (span_unique others spans) (Nat.ne_of_gt elapsed)
  have failed : (provided p.halfDone answer).failures =
      [.invalid (.zeroTime b.name planned.length)] := by
    rw [refused, provided, BenchmarkResult.addFailure, unfailed]
    rfl
  obtain ⟨-, -, settled⟩ := passage_keeps p sums
  constructor
  · rw [settled (timed_uniform (half_done_timed standard p)) (by simp [failed]), failed]
  · rw [concludes.measured, refused, provided, BenchmarkResult.addFailure, fresh]

theorem run_until_earns (standard : s.services.collector = .standard) {r : BenchmarkResult}
    {later : Course σ} (returned : s.runUntil deadline b c = (.ok r, later)) : Earns s r := by
  have agrees := run_until_agrees returned
  cases run_until_returns returned with
  | rejected => exact rejection_earns s _ _ _
  | passed valid p =>
      obtain ⟨answer, answers, sums⟩ := half_done_answers standard p
      have concludes := passage_concludes valid p sums
      refine ⟨fun m member named => throughput_earned answers concludes member named,
        fun success => (success_measured answers concludes success).2,
        fun success => (success_measured answers concludes success).1, fun together planned ran => ?_⟩
      rw [p.result_benchmark] at together ⊢
      obtain ⟨failures, unmeasured⟩ := instant_fails standard valid together p ran
      have unsuccessful : p.result.status ≠ .success := by
        rw [Ne, status_success, failures]
        simp
      have failed : p.result.phase = .failed := by
        refine agrees.phase.resolve_left fun completed => ?_
        exact unsuccessful (agrees.outcome.mpr ⟨completed, ran.sound⟩)
      refine ⟨failed, ?_, unmeasured, failures⟩
      cases status : p.result.status with
      | success => exact absurd status unsuccessful
      | failed => rfl

end Throughput

/-- Whatever becomes of a benchmark, its throughput is that of its whole plan over the time that it
took, or it has none. -/
theorem throughput_never_misleads (s : Suite σ) (standard : s.services.collector = .standard) :
    (∀ b c r later, s.runBenchmark b c = (.ok r, later) → r.benchmark = b ∧ Earns s r) ∧
      ∀ benchmarks c results later, s.run benchmarks c = (.ok (.ok results), later) →
        ∀ r ∈ results, Earns s r := by
  refine ⟨fun b c r later returned => ?_, fun benchmarks c results later => ?_⟩
  · have ran := run_benchmark_until returned
    exact ⟨run_until_benchmark ran, run_until_earns standard ran⟩
  · exact results_all (rejection_earns s) (fun _ _ _ _ _ returned => run_until_earns standard returned)
      benchmarks c later results

def hurried (d : Span) : Suite Unit :=
  { obligingSuite with services := { obligingIn d with collector := .standard } }

def twoAtOnce : Benchmark :=
  { sized with concurrency := 2 }

theorem hurried_throughput :
    (hurried 3).services.collector = .standard ∧
      (∃ r later planned d, (hurried 3).runBenchmark twoAtOnce (.start .never ()) = (.ok r, later) ∧
        Ran (hurried 3) r planned d ∧ 0 < d ∧
        r.measurements = [durationOver d, throughputOver planned.length d]) ∧
      ((hurried 0).runBenchmark twoAtOnce (.start .never ())).1.toOption.map BenchmarkResult.failures =
        some [.invalid (.zeroTime "sized" 4)] := by
  obtain ⟨r, later, returned, success⟩ := Course.shown_given
    ((hurried 3).runBenchmark twoAtOnce (.start .never ())) BenchmarkResult.status .success
    (by decide +kernel)
  obtain ⟨single, -⟩ := throughput_never_misleads (hurried 3) rfl
  obtain ⟨own, earns⟩ := single twoAtOnce (.start .never ()) r later returned
  obtain ⟨planned, d, ran, elapsed, measured⟩ := earns.together success (by rw [own]; rfl)
  exact ⟨rfl, ⟨r, later, planned, d, returned, ran, elapsed, measured⟩, by decide +kernel⟩

end SqlBench.Suite
