import SqlBench.Proofs.Suite.Stage

set_option autoImplicit false

namespace SqlBench.Suite

variable {σ : Type}

theorem causes_length (r : BenchmarkResult) :
    r.failureCauses.length = r.failures.length + r.failedExecutions := by
  have failed : (r.executions.filterMap ExecutionResult.failure).length = r.failedExecutions := by
    rw [List.length_filterMap_eq_countP, BenchmarkResult.failedExecutions, ← List.countP_eq_length_filter]
    congr
    funext e
    cases failure : e.failure <;> simp [ExecutionResult.isSuccessful, failure]
  rw [BenchmarkResult.failureCauses, List.length_append, failed]

theorem successful_iff (r : BenchmarkResult) : r.isSuccessful = true ↔
    r.phase ≠ .failed ∧ r.failures = [] ∧ ∀ e ∈ r.executions, e.isSuccessful = true := by
  simp [BenchmarkResult.isSuccessful, and_assoc]

theorem last_phase_completed (r : BenchmarkResult) (isAborted : Bool) :
    lastPhase r isAborted = .completed ↔
      isAborted = false ∧ r.failures = [] ∧ ∃ e ∈ r.executions, e.isSuccessful = true := by
  have length := causes_length r
  have unfailed : r.failures.length = 0 ↔ ¬ r.failedExecutions < r.failureCauses.length := by omega
  have sound : (r.executions.any ExecutionResult.isSuccessful = true) ↔
      ∃ e ∈ r.executions, e.isSuccessful = true := List.any_eq_true
  rw [← List.length_eq_zero_iff, unfailed, ← sound, lastPhase]
  cases isAborted <;> cases r.executions.any ExecutionResult.isSuccessful <;>
    by_cases worse : r.failedExecutions < r.failureCauses.length <;> simp [worse]

theorem last_phase_ends (r : BenchmarkResult) (isAborted : Bool) :
    lastPhase r isAborted = .completed ∨ lastPhase r isAborted = .failed := by
  simp only [lastPhase]
  split
  · exact .inr rfl
  · exact .inl rfl

-- What comes behind the executions only adds failures.
structure Worsens (r later : BenchmarkResult) : Prop where
  executions : later.executions = r.executions
  failures : r.failures <+: later.failures

theorem Worsens.trans {a b c : BenchmarkResult} (early : Worsens a b) (late : Worsens b c) :
    Worsens a c :=
  ⟨late.executions.trans early.executions, early.failures.trans late.failures⟩

def samples (r : BenchmarkResult) : List Measurement :=
  (r.executions.filter ExecutionResult.isSuccessful).flatMap fun e => e.measurements

theorem summarise_cases (r : BenchmarkResult) :
    (∃ aggregates, Statistics.aggregateByName (samples r) = .ok aggregates ∧
      summarise r = { r with aggregates := aggregates }) ∨
    ∃ cause, Statistics.aggregateByName (samples r) = .error cause ∧
      summarise r = r.addFailure cause := by
  rw [summarise, samples]
  cases Statistics.aggregateByName
      ((r.executions.filter ExecutionResult.isSuccessful).flatMap fun e => e.measurements) with
  | ok aggregates => exact .inl ⟨aggregates, rfl, rfl⟩
  | error cause => exact .inr ⟨cause, rfl, rfl⟩

theorem summarise_worsens (r : BenchmarkResult) : Worsens r (summarise r) := by
  rcases summarise_cases r with ⟨aggregates, -, same⟩ | ⟨cause, -, same⟩
  · exact same ▸ ⟨rfl, List.prefix_refl _⟩
  · exact same ▸ ⟨rfl, List.prefix_append _ _⟩

def provided (r : BenchmarkResult) : Except Failure (List Measurement) → BenchmarkResult
  | .ok found => { r with measurements := found }
  | .error cause => r.addFailure cause

theorem provided_worsens (r : BenchmarkResult) (answer : Except Failure (List Measurement)) :
    Worsens r (provided r answer) := by
  cases answer with
  | ok found => exact ⟨rfl, List.prefix_refl _⟩
  | error cause => exact ⟨rfl, List.prefix_append _ _⟩

def answered (s : Suite σ) (r : BenchmarkResult) (c : Course σ) : Finding × Course σ :=
  c.collect (.benchmark { r with phase := .aggregating }) s.services.collector []

inductive Sums (s : Suite σ) (r : BenchmarkResult) (c : Course σ) :
    Except String BenchmarkResult → Course σ → Prop where
  | answered {answer : Except Failure (List Measurement)} {later : Course σ}
      (answers : s.answered r c = (answer.mapError .failed, later)) :
      Sums s r c (.ok (summarise (provided { r with phase := .aggregating } answer))) later
  | unwound {panic : String} {later : Course σ}
      (answers : s.answered r c = (.error (.crashed panic), later)) :
      Sums s r c (.error panic) later

theorem aggregate_sums (s : Suite σ) (r : BenchmarkResult) (c : Course σ) :
    Sums s r c (s.aggregate r c).1 (s.aggregate r c).2 := by
  rw [aggregate]
  dsimp only
  cases answers : c.collect (.benchmark { r with phase := .aggregating }) s.services.collector [] with
  | mk said later =>
      cases said with
      | ok found => exact @Sums.answered _ s r c (.ok found) later answers
      | error halt =>
          cases halt with
          | failed cause => exact @Sums.answered _ s r c (.error cause) later answers
          | crashed panic => exact .unwound answers

theorem aggregate_journal (s : Suite σ) (r : BenchmarkResult) (c : Course σ) :
    (s.aggregate r c).2.journal = c.journal := by
  have quiet : (s.answered r c).2.journal = c.journal := c.collect_journal _ s.services.collector []
  have sums := aggregate_sums s r c
  generalize (s.aggregate r c).1 = outcome at sums
  generalize (s.aggregate r c).2 = later at sums ⊢
  cases sums with
  | answered answers | unwound answers =>
      rw [answers] at quiet
      exact quiet

def SkipsCleanUp (s : Suite σ) (r : BenchmarkResult) : Prop :=
  r.benchmark.afterBenchmark = [] ∨
    s.cleanupPolicy = .skipOnTotalFailure ∧ ∀ e ∈ r.executions, e.isSuccessful = false

def blamed (r : BenchmarkResult) (cause : Failure) : BenchmarkResult :=
  if r.isSuccessful then r.addFailure cause else r

def afterHooks (s : Suite σ) (r : BenchmarkResult) (c : Course σ) : Except Halt Unit × Course σ :=
  Hook.bracket s.services (.afterBenchmark r.benchmark) (some r.benchmark) r.benchmark.afterBenchmark c

inductive Tidies (s : Suite σ) (r : BenchmarkResult) (c : Course σ) :
    Except String BenchmarkResult → Course σ → Prop where
  | skipped (skips : s.SkipsCleanUp r) : Tidies s r c (.ok { r with phase := .cleaningUp }) c
  | fine {later : Course σ} (due : ¬ s.SkipsCleanUp r) (hooks : s.afterHooks r c = (.ok (), later)) :
      Tidies s r c (.ok { r with phase := .cleaningUp }) later
  | failed {cause : Failure} {later : Course σ} (due : ¬ s.SkipsCleanUp r)
      (hooks : s.afterHooks r c = (.error (.failed cause), later)) :
      Tidies s r c (.ok (blamed { r with phase := .cleaningUp } cause)) later
  | unwound {panic : String} {later : Course σ} (due : ¬ s.SkipsCleanUp r)
      (hooks : s.afterHooks r c = (.error (.crashed panic), later)) :
      Tidies s r c (.error panic) later

theorem clean_up_tidies (s : Suite σ) (r : BenchmarkResult) (c : Course σ) :
    Tidies s r c (s.cleanUp r c).1 (s.cleanUp r c).2 := by
  have total : (r.executions.all fun e => !e.isSuccessful) = true ↔
      ∀ e ∈ r.executions, e.isSuccessful = false := by
    simp
  rw [cleanUp]
  dsimp only
  split
  · rename_i bare
    exact .skipped (.inl (List.isEmpty_iff.mp bare))
  · rename_i named
    split
    · rename_i skips
      rw [Bool.and_eq_true, total, decide_eq_true_eq] at skips
      exact .skipped (.inr skips.symm)
    · rename_i stays
      rw [Bool.and_eq_true, total, decide_eq_true_eq] at stays
      have due : ¬ s.SkipsCleanUp r := by
        rintro (bare | skips)
        · exact named (List.isEmpty_iff.mpr bare)
        · exact stays skips.symm
      cases hooks : Hook.bracket s.services (.afterBenchmark r.benchmark) (some r.benchmark)
          r.benchmark.afterBenchmark c with
      | mk outcome later =>
          cases outcome with
          | ok => exact .fine due hooks
          | error halt =>
              cases halt with
              | failed cause => exact .failed due hooks
              | crashed panic => exact .unwound due hooks

section Parts

variable {s : Suite σ} {deadline : Option Moment} {r found cleaned : BenchmarkResult} {isAborted : Bool}
  {c later : Course σ}

theorem aggregate_worsens (returned : s.aggregate r c = (.ok found, later)) : Worsens r found := by
  have sums := aggregate_sums s r c
  rw [returned] at sums
  cases sums with
  | @answered answer =>
      have worse := (provided_worsens { r with phase := .aggregating } answer).trans (summarise_worsens _)
      exact ⟨worse.executions, worse.failures⟩

theorem clean_up_adds (returned : s.cleanUp r c = (.ok cleaned, later)) :
    ∃ more, cleaned = { r with phase := .cleaningUp, failures := r.failures ++ more } ∧
      (∀ cause ∈ more, (s.afterHooks r c).1 = .error (.failed cause)) ∧ (r.failures ≠ [] → more = []) := by
  have nothing : { r with phase := .cleaningUp } =
      { r with phase := .cleaningUp, failures := r.failures ++ [] } := by
    rw [List.append_nil]
  have tidies := clean_up_tidies s r c
  rw [returned] at tidies
  cases tidies with
  | skipped => exact ⟨[], nothing, by simp, fun _ => rfl⟩
  | fine => exact ⟨[], nothing, by simp, fun _ => rfl⟩
  | @failed cause _ due hooks =>
      rw [blamed]
      split
      · rename_i successful
        refine ⟨[cause], rfl, by simp [hooks], fun failed => absurd ?_ failed⟩
        exact ((successful_iff _).mp successful).2.1
      · exact ⟨[], nothing, by simp, fun _ => rfl⟩

theorem clean_up_worsens (returned : s.cleanUp r c = (.ok cleaned, later)) : Worsens r cleaned := by
  obtain ⟨more, rfl, -⟩ := clean_up_adds returned
  exact ⟨rfl, List.prefix_append _ _⟩

theorem prepare_benchmark
    (returned : s.prepareAndExecute deadline r c = (.ok (found, isAborted), later)) :
    found.benchmark = r.benchmark := by
  obtain ⟨phase, failures, executions, rfl⟩ := prepare_fills returned
  rfl

theorem summarise_benchmark (r : BenchmarkResult) : (summarise r).benchmark = r.benchmark := by
  rcases summarise_cases r with ⟨aggregates, -, same⟩ | ⟨cause, -, same⟩ <;> exact same ▸ rfl

theorem aggregate_benchmark (returned : s.aggregate r c = (.ok found, later)) :
    found.benchmark = r.benchmark := by
  have sums := aggregate_sums s r c
  rw [returned] at sums
  cases sums with
  | @answered answer =>
      rw [summarise_benchmark]
      cases answer <;> rfl

theorem clean_up_benchmark (returned : s.cleanUp r c = (.ok cleaned, later)) :
    cleaned.benchmark = r.benchmark := by
  obtain ⟨more, rfl, -⟩ := clean_up_adds returned
  rfl

end Parts

-- How a benchmark that is accepted comes to its result.
structure Passage (s : Suite σ) (deadline : Option Moment) (b : Benchmark) (c : Course σ) where
  staged : BenchmarkResult
  isAborted : Bool
  executed : Course σ
  gathered : BenchmarkResult
  collected : Course σ
  cleaned : BenchmarkResult
  tidied : Course σ
  prepares : s.prepareAndExecute deadline (.start b c.now) (c.post (.benchmarkStarted b)) =
    (.ok (staged, isAborted), executed)
  collects : s.aggregate staged executed = (.ok gathered, collected)
  cleans : s.cleanUp gathered collected = (.ok cleaned, tidied)

namespace Passage

variable {s : Suite σ} {deadline : Option Moment} {b : Benchmark} {c : Course σ}

def result (p : s.Passage deadline b c) : BenchmarkResult :=
  p.cleaned.finish (lastPhase p.cleaned p.isAborted) p.tidied.now

def ended (p : s.Passage deadline b c) : Course σ :=
  p.tidied.post (.benchmarkFinished p.result)

variable (p : s.Passage deadline b c)

theorem executed_eq : p.executed =
    (s.prepareAndExecute deadline (.start b c.now) (c.post (.benchmarkStarted b))).2 :=
  (congrArg Prod.snd p.prepares).symm

theorem staged_shown {α : Type} {f : BenchmarkResult → α} {seen : α}
    (shown : (s.prepareAndExecute deadline (.start b c.now) (c.post (.benchmarkStarted b))).1.toOption.map
      (fun staged => f staged.1) = some seen) : f p.staged = seen := by
  rw [p.prepares] at shown
  exact Option.some.inj shown

theorem worsens : Worsens p.staged p.result := by
  have worse := (aggregate_worsens p.collects).trans (clean_up_worsens p.cleans)
  exact ⟨worse.executions, worse.failures⟩

theorem gathered_benchmark : p.gathered.benchmark = b :=
  (aggregate_benchmark p.collects).trans (prepare_benchmark p.prepares)

theorem result_benchmark : p.result.benchmark = b :=
  (clean_up_benchmark p.cleans).trans p.gathered_benchmark

end Passage

def rejection (b : Benchmark) (cause : Failure) (c : Course σ) : BenchmarkResult :=
  ((BenchmarkResult.start b c.now).addFailure cause).finish .failed c.now

def rejectedAt (b : Benchmark) (cause : Failure) (c : Course σ) : Course σ :=
  c.post (.benchmarkFinished (rejection b cause c))

theorem reject_returns (b : Benchmark) (cause : Failure) (c : Course σ) :
    reject b cause c = (.ok (rejection b cause c), rejectedAt b cause c) :=
  rfl

inductive Returns (s : Suite σ) (deadline : Option Moment) (b : Benchmark) (c : Course σ) :
    BenchmarkResult → Course σ → Prop where
  | rejected {cause : Failure} (invalid : b.validate = .error cause) :
      Returns s deadline b c (rejection b cause c) (rejectedAt b cause c)
  | passed (valid : b.validate = .ok ()) (p : s.Passage deadline b c) :
      Returns s deadline b c p.result p.ended

section Until

variable {s : Suite σ} {deadline : Option Moment} {b : Benchmark} {c later : Course σ}
  {r : BenchmarkResult}

theorem run_until_rejects {cause : Failure} (invalid : b.validate = .error cause) (s : Suite σ)
    (deadline : Option Moment) (c : Course σ) :
    s.runUntil deadline b c = (.ok (rejection b cause c), rejectedAt b cause c) := by
  rw [runUntil, invalid]
  exact reject_returns b cause c

theorem run_until_accepts (valid : b.validate = .ok ()) (s : Suite σ) (deadline : Option Moment)
    (c : Course σ) : s.runUntil deadline b c = s.runAccepted deadline b c := by
  rw [runUntil, valid]

theorem run_accepted_returns_iff : s.runAccepted deadline b c = (.ok r, later) ↔
    ∃ p : s.Passage deadline b c, r = p.result ∧ later = p.ended := by
  rw [runAccepted, Course.and_then_gives_iff]
  constructor
  · rintro ⟨⟨staged, isAborted⟩, executed, prepares, behind⟩
    obtain ⟨gathered, collected, collects, behind⟩ := Course.and_then_gives_iff.mp behind
    obtain ⟨cleaned, tidied, cleans, ends⟩ := Course.and_then_gives_iff.mp behind
    cases ends
    exact ⟨⟨staged, isAborted, executed, gathered, collected, cleaned, tidied, prepares, collects,
      cleans⟩, rfl, rfl⟩
  · rintro ⟨p, rfl, rfl⟩
    refine ⟨_, _, p.prepares, ?_⟩
    rw [Course.and_then_ok (congrArg Prod.fst p.collects), p.collects,
      Course.and_then_ok (congrArg Prod.fst p.cleans), p.cleans]
    rfl

theorem run_until_returns (returned : s.runUntil deadline b c = (.ok r, later)) :
    Returns s deadline b c r later := by
  cases valid : b.validate with
  | error cause =>
      rw [run_until_rejects valid] at returned
      cases returned
      exact .rejected valid
  | ok =>
      rw [run_until_accepts valid] at returned
      obtain ⟨p, rfl, rfl⟩ := run_accepted_returns_iff.mp returned
      exact .passed valid p

theorem run_until_benchmark (returned : s.runUntil deadline b c = (.ok r, later)) :
    r.benchmark = b := by
  cases run_until_returns returned with
  | rejected => rfl
  | passed valid p => exact p.result_benchmark

theorem run_benchmark_until (returned : s.runBenchmark b c = (.ok r, later)) :
    s.runUntil (s.deadline c.now) b c = (.ok r, later) := by
  rw [runBenchmark] at returned
  split at returned
  · exact returned
  · cases returned

end Until

def checks (s : Suite σ) (b : Benchmark) (c : Course σ) : Except Halt Unit × Course σ :=
  Hook.bracket s.services (.healthCheck b) (some b) s.healthCheck c

inductive Checks (s : Suite σ) (deadline : Option Moment) (b : Benchmark) (c : Course σ) :
    Except String BenchmarkResult → Course σ → Prop where
  | unwound {panic : String} {checked : Course σ}
      (hooks : s.checks b c = (.error (.crashed panic), checked)) :
      Checks s deadline b c (.error panic) checked
  | unhealthy {cause : Failure} {checked : Course σ}
      (hooks : s.checks b c = (.error (.failed cause), checked)) :
      Checks s deadline b c (.ok (rejection b cause checked)) (rejectedAt b cause checked)
  | healthy {outcome : Except String BenchmarkResult} {checked later : Course σ}
      (hooks : s.checks b c = (.ok (), checked))
      (ran : s.runUntil deadline b checked = (outcome, later)) :
      Checks s deadline b c outcome later

theorem run_checked_checks (s : Suite σ) (deadline : Option Moment) (b : Benchmark) (c : Course σ) :
    Checks s deadline b c (s.runChecked deadline b c).1 (s.runChecked deadline b c).2 := by
  rw [runChecked]
  cases hooks : Hook.bracket s.services (.healthCheck b) (some b) s.healthCheck c with
  | mk outcome checked =>
      cases outcome with
      | ok => exact .healthy hooks rfl
      | error halt =>
          cases halt with
          | failed cause => exact .unhealthy hooks
          | crashed panic => exact .unwound hooks

theorem checked_checks {s : Suite σ} {deadline : Option Moment} {b : Benchmark} {c later : Course σ}
    {outcome : Except String BenchmarkResult} (ran : s.runChecked deadline b c = (outcome, later)) :
    Checks s deadline b c outcome later := by
  have checks := run_checked_checks s deadline b c
  rwa [ran] at checks

-- Nothing new is begun any more.
def IsOver (deadline : Option Moment) (c : Course σ) : Prop :=
  c.isStopped = true ∨ isReached deadline c.now = true

-- How benchmarks are run one after the other, until there are results or a panic unwinds them.
inductive InOrder (s : Suite σ) (deadline : Option Moment) :
    List Benchmark → Course σ → Except String (List BenchmarkResult) → Course σ → Prop where
  | finished (c : Course σ) : InOrder s deadline [] c (.ok []) c
  | cut {b : Benchmark} {rest : List Benchmark} {c : Course σ} (isOver : IsOver deadline c) :
      InOrder s deadline (b :: rest) c (.ok []) c
  | aborted {b : Benchmark} {rest : List Benchmark} {c last : Course σ} {r : BenchmarkResult}
      (goesOn : ¬ IsOver deadline c) (ran : s.runChecked deadline b c = (.ok r, last))
      (strict : s.failurePolicy = .abort) (failed : r.isSuccessful = false) :
      InOrder s deadline (b :: rest) c (.ok [r]) last
  | unwound {b : Benchmark} {rest : List Benchmark} {c last : Course σ} {panic : String}
      (goesOn : ¬ IsOver deadline c) (ran : s.runChecked deadline b c = (.error panic, last)) :
      InOrder s deadline (b :: rest) c (.error panic) last
  | next {b : Benchmark} {rest : List Benchmark} {c later last : Course σ} {r : BenchmarkResult}
      {outcome : Except String (List BenchmarkResult)} (goesOn : ¬ IsOver deadline c)
      (ran : s.runChecked deadline b c = (.ok r, later))
      (carriesOn : s.failurePolicy = .abort → r.isSuccessful = true)
      (behind : InOrder s deadline rest later outcome last) :
      InOrder s deadline (b :: rest) c (outcome.map (r :: ·)) last

theorem run_in_order_goes (s : Suite σ) (deadline : Option Moment) (benchmarks : List Benchmark)
    (c : Course σ) : InOrder s deadline benchmarks c (s.runInOrder deadline benchmarks c).1
      (s.runInOrder deadline benchmarks c).2 := by
  induction benchmarks generalizing c with
  | nil => exact .finished c
  | cons b rest ih =>
      rw [runInOrder]
      split
      · rename_i ended
        exact .cut (Bool.or_eq_true_iff.mp ended)
      · rename_i mayBegin
        have goesOn : ¬ IsOver deadline c := mt Bool.or_eq_true_iff.mpr mayBegin
        cases ran : s.runChecked deadline b c with
        | mk outcome later =>
            cases outcome with
            | error panic => exact .unwound goesOn ran
            | ok r =>
                dsimp only [Course.andThen]
                split
                · rename_i aborts
                  rw [Bool.and_eq_true, Bool.not_eq_true', decide_eq_true_eq] at aborts
                  exact .aborted goesOn ran aborts.2 aborts.1
                · rename_i carries
                  have behind := InOrder.next goesOn ran (fun strict => by simpa [strict] using carries)
                    (ih later)
                  cases others : s.runInOrder deadline rest later with
                  | mk outcome last =>
                      rw [others] at behind
                      cases outcome <;> exact behind

theorem in_order_goes {s : Suite σ} {deadline : Option Moment} {benchmarks : List Benchmark}
    {c last : Course σ} {outcome : Except String (List BenchmarkResult)}
    (ran : s.runInOrder deadline benchmarks c = (outcome, last)) :
    InOrder s deadline benchmarks c outcome last := by
  have goes := run_in_order_goes s deadline benchmarks c
  rwa [ran] at goes

theorem in_order_all {P : BenchmarkResult → Prop} {s : Suite σ} {deadline : Option Moment}
    (rejects : ∀ b cause (c : Course σ), P (rejection b cause c))
    (runs : ∀ b c r later, s.runUntil deadline b c = (.ok r, later) → P r)
    {benchmarks : List Benchmark} {c last : Course σ} {outcome : Except String (List BenchmarkResult)}
    (goes : InOrder s deadline benchmarks c outcome last) :
    ∀ results, outcome = .ok results → ∀ r ∈ results, P r := by
  have single {b : Benchmark} {c later : Course σ} {r : BenchmarkResult}
      (ran : s.runChecked deadline b c = (.ok r, later)) : P r := by
    cases checked_checks ran with
    | unhealthy => exact rejects _ _ _
    | healthy hooks ran => exact runs _ _ _ _ ran
  induction goes with
  | finished c =>
      rintro _ ⟨⟩
      simp
  | cut isOver =>
      rintro _ ⟨⟩
      simp
  | aborted goesOn ran =>
      rintro _ ⟨⟩
      simpa using single ran
  | unwound => simp
  | @next b rest c later last r outcome goesOn ran carriesOn behind ih =>
      intro results same
      cases outcome with
      | error panic => cases same
      | ok others =>
          cases same
          exact List.forall_mem_cons.mpr ⟨single ran, ih others rfl⟩

def beforeAllHooks (s : Suite σ) (c : Course σ) : Except Halt Unit × Course σ :=
  Hook.bracket s.services .beforeAll none s.beforeAll c

inductive Body (s : Suite σ) (benchmarks : List Benchmark) (c : Course σ) :
    Except String (Except Failure (List BenchmarkResult)) → Course σ → Prop where
  | pastClock (tells : s.tellsDeadline c.now = false) : Body s benchmarks c (.error Instant.overflow) c
  | unprepared {panic : String} {begun : Course σ} (tells : s.tellsDeadline c.now = true)
      (hooks : s.beforeAllHooks c = (.error (.crashed panic), begun)) :
      Body s benchmarks c (.error panic) begun
  | refused {cause : Failure} {begun : Course σ} (tells : s.tellsDeadline c.now = true)
      (hooks : s.beforeAllHooks c = (.error (.failed cause), begun)) :
      Body s benchmarks c (.ok (.error cause)) begun
  | ran {begun last : Course σ} {outcome : Except String (List BenchmarkResult)}
      (tells : s.tellsDeadline c.now = true) (hooks : s.beforeAllHooks c = (.ok (), begun))
      (goes : s.runInOrder (s.deadline c.now) benchmarks begun = (outcome, last)) :
      Body s benchmarks c (outcome.map .ok) last

-- What becomes of a body. The hooks behind all come next, unless a panic has unwound it.
def closed (s : Suite σ) (outcome : Except String (Except Failure (List BenchmarkResult)))
    (ended : Course σ) : Except String (Except Failure (List BenchmarkResult)) × Course σ :=
  match outcome with
  | .error panic => (.error panic, ended)
  | .ok returned => ((s.cleanUpAll ended).1.map fun _ => returned, (s.cleanUpAll ended).2)

theorem closed_behind (s : Suite σ) (returned : Except Failure (List BenchmarkResult)) (ended : Course σ) :
    (Course.andThen (s.cleanUpAll ended) fun _ c => (.ok returned, c)) = s.closed (.ok returned) ended := by
  rw [closed]
  cases s.cleanUpAll ended with
  | mk tidied later => cases tidied <;> rfl

def body (s : Suite σ) (benchmarks : List Benchmark) (c : Course σ) :
    Except String (Except Failure (List BenchmarkResult)) × Course σ :=
  if s.tellsDeadline c.now then
    match s.beforeAllHooks c with
    | (.error (.crashed panic), begun) => (.error panic, begun)
    | (.error (.failed cause), begun) => (.ok (.error cause), begun)
    | (.ok (), begun) =>
      let done := s.runInOrder (s.deadline c.now) benchmarks begun
      (done.1.map .ok, done.2)
  else (.error Instant.overflow, c)

theorem body_goes (s : Suite σ) (benchmarks : List Benchmark) (c : Course σ) :
    Body s benchmarks c (s.body benchmarks c).1 (s.body benchmarks c).2 := by
  rw [body]
  split
  · rename_i tells
    cases hooks : s.beforeAllHooks c with
    | mk prepared begun =>
        cases prepared with
        | error halt =>
            cases halt with
            | crashed panic => exact .unprepared tells hooks
            | failed cause => exact .refused tells hooks
        | ok => exact .ran tells hooks rfl
  · rename_i past
    exact .pastClock (Bool.eq_false_iff.mpr past)

theorem run_closes (s : Suite σ) (benchmarks : List Benchmark) (c : Course σ) :
    s.run benchmarks c = s.closed (s.body benchmarks c).1 (s.body benchmarks c).2 := by
  rw [run, body, beforeAllHooks]
  cases s.tellsDeadline c.now with
  | false => rfl
  | true =>
      simp only [Bool.not_true, Bool.false_eq_true, if_false, if_true]
      cases Hook.bracket s.services .beforeAll none s.beforeAll c with
      | mk prepared begun =>
          cases prepared with
          | error halt =>
              cases halt with
              | crashed panic => rfl
              | failed cause => exact closed_behind s (.error cause) begun
          | ok =>
              dsimp only
              cases s.runInOrder (s.deadline c.now) benchmarks begun with
              | mk outcome last =>
                  cases outcome with
                  | error panic => rfl
                  | ok results => exact closed_behind s (.ok results) last

theorem run_returns {s : Suite σ} {benchmarks : List Benchmark} {c later : Course σ}
    {returned : Except Failure (List BenchmarkResult)}
    (ran : s.run benchmarks c = (.ok returned, later)) :
    ∃ ended, Body s benchmarks c (.ok returned) ended ∧ s.cleanUpAll ended = (.ok (), later) := by
  have body := body_goes s benchmarks c
  rw [run_closes] at ran
  generalize s.body benchmarks c = done at body ran
  obtain ⟨outcome, ended⟩ := done
  cases outcome with
  | error panic => cases ran
  | ok value =>
      rw [← closed_behind] at ran
      obtain ⟨⟨⟩, c, tidied, ends⟩ := Course.and_then_gives_iff.mp ran
      cases ends
      exact ⟨_, body, tidied⟩

theorem run_results {s : Suite σ} {benchmarks : List Benchmark} {c later : Course σ}
    {results : List BenchmarkResult} (ran : s.run benchmarks c = (.ok (.ok results), later)) :
    ∃ begun last, s.beforeAllHooks c = (.ok (), begun) ∧
      s.runInOrder (s.deadline c.now) benchmarks begun = (.ok results, last) ∧
      s.cleanUpAll last = (.ok (), later) := by
  obtain ⟨ended, body, tidied⟩ := run_returns ran
  generalize outcomes : (Except.ok (Except.ok results) :
    Except String (Except Failure (List BenchmarkResult))) = outcome at body
  cases body with
  | pastClock | unprepared | refused => cases outcomes
  | @ran begun last outcome tells hooks goes =>
      cases outcome with
      | error panic => cases outcomes
      | ok others =>
          cases outcomes
          exact ⟨begun, _, hooks, goes, tidied⟩

theorem shown_results {α : Type} (s : Suite σ) (benchmarks : List Benchmark) (c : Course σ)
    (f : List BenchmarkResult → α) (seen : α)
    (shown : (s.run benchmarks c).1.toOption.bind (fun returned => returned.toOption.map f) = some seen) :
    ∃ results later, s.run benchmarks c = (.ok (.ok results), later) ∧ f results = seen := by
  generalize s.run benchmarks c = done at shown ⊢
  obtain ⟨outcome, later⟩ := done
  rcases outcome with panic | cause | results
  · cases shown
  · cases shown
  · exact ⟨results, later, rfl, Option.some.inj shown⟩

theorem results_all {P : BenchmarkResult → Prop} {s : Suite σ}
    (rejects : ∀ b cause (c : Course σ), P (rejection b cause c))
    (runs : ∀ deadline b c r later, s.runUntil deadline b c = (.ok r, later) → P r)
    (benchmarks : List Benchmark) (c later : Course σ) (results : List BenchmarkResult)
    (ran : s.run benchmarks c = (.ok (.ok results), later)) : ∀ r ∈ results, P r := by
  obtain ⟨begun, last, -, goes, -⟩ := run_results ran
  exact in_order_all rejects (runs _) (in_order_goes goes) results rfl

structure Ending (s : Suite σ) (b : Benchmark) (r : BenchmarkResult) (isAborted : Bool) : Prop where
  accounts : r.failures = [] → ∃ planned, s.Plans b planned ∧ Accounts planned r.executions isAborted
  phase : r.phase = lastPhase r isAborted

theorem Passage.ending {s : Suite σ} {deadline : Option Moment} {b : Benchmark} {c : Course σ}
    (p : s.Passage deadline b c) : Ending s b p.result p.isAborted := by
  refine ⟨fun unfailed => ?_, rfl⟩
  obtain ⟨planned, plans, accounts⟩ :=
    prepare_accounts p.prepares (List.prefix_nil.mp (unfailed ▸ p.worsens.failures))
  exact ⟨planned, plans, p.worsens.executions.symm ▸ accounts⟩

theorem completed_accounts {s : Suite σ} {deadline : Option Moment} {b : Benchmark}
    {c later : Course σ} {r : BenchmarkResult} (returned : s.runUntil deadline b c = (.ok r, later))
    (completed : r.phase = .completed) :
    (∃ planned, s.Plans b planned ∧ r.executions.map ExecutionResult.execution = planned) ∧
    (∃ e ∈ r.executions, e.isSuccessful = true) ∧ r.failures = [] := by
  cases run_until_returns returned with
  | rejected => cases completed
  | passed valid p =>
      rw [p.ending.phase, last_phase_completed] at completed
      obtain ⟨unaborted, unfailed, sound⟩ := completed
      obtain ⟨planned, plans, accounts⟩ := p.ending.accounts unfailed
      exact ⟨⟨planned, plans, accounts.whole unaborted⟩, sound, unfailed⟩

/-- A completed benchmark has a result for each execution of its plan, in the order of the plan. -/
theorem completed_ran_everything (s : Suite σ) (b : Benchmark) (c later : Course σ)
    (r : BenchmarkResult) (returned : s.runBenchmark b c = (.ok r, later))
    (completed : r.phase = .completed) :
    (∃ planned, s.Plans b planned ∧ r.executions.map ExecutionResult.execution = planned) ∧
    (r.executions.map fun x => x.execution.number) =
      List.range ((b.parameters.values.map List.length).prod * b.runs * b.queries.length) ∧
    (∃ e ∈ r.executions, e.isSuccessful = true) ∧ r.failures = [] := by
  obtain ⟨⟨planned, ⟨templates, loaded, plans⟩, whole⟩, sound, unfailed⟩ :=
    completed_accounts (run_benchmark_until returned) completed
  refine ⟨⟨planned, ⟨templates, loaded, plans⟩, whole⟩, ?_, sound, unfailed⟩
  have numbers := Plan.executions_numbers plans
  rw [← whole, List.map_map] at numbers
  exact numbers

def obligingIn (d : Span) : Services Unit where
  take call _ :=
    match call with
    | .send .. => (⟨d, 0, false, .rows 1 none⟩, ())
    | _ => (.instant .done, ())
  queries := ⟨.directory [("q.sql", .file "SELECT 1".toUTF8.toList)], ["."], Dict.empty⟩
  hooks := Dict.empty
  collector := []

def obligingSuite : Suite Unit :=
  ⟨obligingIn 3, .abort, .always, [], [], [], some 100⟩

def sized : Benchmark :=
  { Benchmark.named "sized" "memory" with
    runs := 2
    prewarmRuns := 1
    queries := ["q"]
    parameters := Dict.ofList [("size", ["small", "large"])] }

theorem sized_ran_everything :
    ∃ r later, obligingSuite.runBenchmark sized (.start .never ()) = (.ok r, later) ∧
      r.phase = .completed ∧ (r.executions.map fun x => x.execution.number) = List.range 4 := by
  obtain ⟨r, later, returned, completed⟩ :=
    Course.shown_given (obligingSuite.runBenchmark sized (.start .never ())) BenchmarkResult.phase
      .completed (by decide +kernel)
  obtain ⟨-, numbers, -, -⟩ :=
    completed_ran_everything obligingSuite sized (.start .never ()) later r returned completed
  exact ⟨r, later, returned, completed, numbers⟩

end SqlBench.Suite
