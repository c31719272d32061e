import SqlBench.Proofs.Pool.Life
import SqlBench.Proofs.Suite.Journal
import SqlBench.Proofs.Suite.News

set_option autoImplicit false

namespace SqlBench.Suite

variable {σ : Type}

theorem work_starts_nothing {entries : List Entry} (works : ∀ x ∈ entries, x.IsWork)
    (occasion : Occasion) (names : List String) : .hooks occasion names ∉ entries :=
  fun member => works _ member

theorem performed_starts_nothing {services : Services σ} {b : Option Benchmark} {hooks : List String}
    {outcome : Except Halt Unit} {work : List Entry}
    (performed : Hook.Performed services b hooks outcome work) (occasion : Occasion)
    (names : List String) : .hooks occasion names ∉ work :=
  work_starts_nothing (Hook.performed_works performed) occasion names

theorem executions_start_nothing {entries : List Entry} (executes : ∀ x ∈ entries, x.IsExecution)
    (occasion : Occasion) (names : List String) : .hooks occasion names ∉ entries :=
  fun member => executes _ member

section Spares

variable {s : Suite σ} {b : Benchmark} {entries : List Entry}

theorem works_spare_suite {executions : List ExecutionResult} (works : Works s b executions entries)
    (names : List String) : .hooks .afterAll names ∉ entries := by
  obtain ⟨outcome, prepared, executed, performed, executes, -, rfl⟩ := works.parts
  have before := performed_starts_nothing performed .afterAll names
  have behind := executions_start_nothing executes .afterAll names
  simp [before, behind]

theorem cleans_spare_suite {r : BenchmarkResult} {outcome : Except Halt Unit}
    (cleans : CleansUp s r outcome entries) (names : List String) :
    .hooks .afterAll names ∉ entries := by
  cases cleans with
  | skipped => simp
  | started due performed => simpa using performed_starts_nothing performed .afterAll names

theorem runs_spare_suite {outcome : Except String BenchmarkResult} (runs : Runs s b outcome entries)
    (names : List String) : .hooks .afterAll names ∉ entries := by
  cases runs with
  | ended own works cleans =>
      simp [works_spare_suite works names, cleans_spare_suite cleans names]
  | unwound works => exact works_spare_suite works names
  | unclean own works cleans =>
      simp [works_spare_suite works names, cleans_spare_suite cleans names]

theorem round_spares_suite {c : Course σ} {outcome : Except String BenchmarkResult}
    (round : Round s b c outcome entries) (names : List String) :
    .hooks .afterAll names ∉ entries := by
  cases round with
  | unwound fails performed | unhealthy fails performed | invalid passes invalid performed =>
      simpa using performed_starts_nothing performed .afterAll names
  | ran passes valid performed runs =>
      simp [performed_starts_nothing performed .afterAll names, runs_spare_suite runs names]

theorem annals_spare_suite {deadline : Option Moment} {benchmarks : List Benchmark} {c last : Course σ}
    {outcome : Except String (List BenchmarkResult)}
    (annals : Annals s deadline benchmarks c outcome entries last) (names : List String) :
    .hooks .afterAll names ∉ entries := by
  induction annals with
  | finished | cut => simp
  | aborted goesOn ran round | unwound goesOn ran round => exact round_spares_suite round names
  | next goesOn ran round carriesOn behind ih =>
      intro member
      rcases List.mem_append.mp member with own | others
      · exact round_spares_suite round names own
      · exact ih others

theorem story_spares_suite {benchmarks : List Benchmark} {c ended : Course σ}
    {outcome : Except String (Except Failure (List BenchmarkResult))}
    (story : Story s benchmarks c outcome entries ended) (names : List String) :
    .hooks .afterAll names ∉ entries := by
  cases story with
  | pastClock => simp
  | unprepared hooks performed | refused hooks performed =>
      simpa using performed_starts_nothing performed .afterAll names
  | ran hooks performed annals =>
      simp [performed_starts_nothing performed .afterAll names, annals_spare_suite annals names]

end Spares

theorem run_in_order_ignores (s : Suite σ) (names : List String) (deadline : Option Moment)
    (benchmarks : List Benchmark) (c : Course σ) :
    { s with afterAll := names }.runInOrder deadline benchmarks c = s.runInOrder deadline benchmarks c := by
  induction benchmarks generalizing c with
  | nil => rfl
  | cons b rest ih =>
      have same : { s with afterAll := names }.runChecked deadline b c = s.runChecked deadline b c := rfl
      simp only [runInOrder, same, ih]

theorem body_ignores (s : Suite σ) (names : List String) (benchmarks : List Benchmark) (c : Course σ) :
    { s with afterAll := names }.body benchmarks c = s.body benchmarks c := by
  have same := run_in_order_ignores s names (s.deadline c.now) benchmarks
  have later : { s with afterAll := names }.deadline c.now = s.deadline c.now := rfl
  simp only [body, later, same]
  rfl

theorem run_ignores {s : Suite σ} {benchmarks : List Benchmark} {c : Course σ}
    {returned : Except Failure (List BenchmarkResult)} (ran : (s.run benchmarks c).1 = .ok returned) :
    ({ s with afterAll := [] }.run benchmarks c).1 = .ok returned := by
  rw [run_closes] at ran
  rw [run_closes, body_ignores]
  cases came : (s.body benchmarks c).1 with
  | error panic =>
      rw [came] at ran
      cases ran
  | ok value =>
      rw [came, closed] at ran
      dsimp only at ran
      cases tidied : (s.cleanUpAll (s.body benchmarks c).2).1 with
      | error panic =>
          rw [tidied] at ran
          cases ran
      | ok =>
          rw [tidied] at ran
          cases ran
          rfl

-- How the hooks behind a benchmark count, if they are gone through and fail: alone they fail it, and
-- otherwise they leave it as it is.
structure Counts (s : Suite σ) (found : BenchmarkResult) (isAborted : Bool)
    (outcome : Except Halt Unit) (r : BenchmarkResult) : Prop where
  alone : ∀ cause, ¬ s.SkipsCleanUp found → outcome = .error (.failed cause) →
    found.isSuccessful = true →
    r.failureCauses = found.failureCauses ++ [cause] ∧ r.phase = .failed
  otherwise : s.SkipsCleanUp found ∨ outcome = .ok () ∨ found.isSuccessful = false →
    r.failureCauses = found.failureCauses ∧ r.phase = lastPhase found isAborted

theorem last_phase_alike {r later : BenchmarkResult} (executions : later.executions = r.executions)
    (failures : later.failures = r.failures) (isAborted : Bool) :
    lastPhase later isAborted = lastPhase r isAborted := by
  cases r
  cases later
  cases executions
  cases failures
  rfl

theorem successful_without_causes {r : BenchmarkResult} (successful : r.isSuccessful = true) :
    r.failures = [] ∧ r.executions.filterMap ExecutionResult.failure = [] := by
  obtain ⟨-, unfailed, all⟩ := (successful_iff r).mp successful
  exact ⟨unfailed, List.filterMap_eq_nil_iff.mpr fun e member => Option.isNone_iff_eq_none.mp (all e member)⟩

theorem success_in_phase {r : BenchmarkResult} (goesOn : r.phase ≠ .failed) :
    { r with phase := .cleaningUp }.isSuccessful = r.isSuccessful := by
  simp [BenchmarkResult.isSuccessful, goesOn]

theorem aggregate_phase {s : Suite σ} {r gathered : BenchmarkResult} {c later : Course σ}
    (returned : s.aggregate r c = (.ok gathered, later)) : gathered.phase = .aggregating := by
  have sums := aggregate_sums s r c
  rw [returned] at sums
  cases sums with
  | @answered answer =>
      rcases summarise_cases (provided { r with phase := .aggregating } answer) with
        ⟨aggregates, -, same⟩ | ⟨cause, -, same⟩ <;> rw [same] <;> cases answer <;> rfl

section Counts

variable {s : Suite σ} {found : BenchmarkResult} {isAborted : Bool}

theorem blame_counts {cause : Failure} (goesOn : found.phase ≠ .failed) (due : ¬ s.SkipsCleanUp found)
    (now : Moment) :
    s.Counts found isAborted (.error (.failed cause))
      ((blamed { found with phase := .cleaningUp } cause).finish
        (lastPhase (blamed { found with phase := .cleaningUp } cause) isAborted) now) := by
  rw [blamed, success_in_phase goesOn]
  constructor
  · rintro cause' _ ⟨⟩ successful
    obtain ⟨unfailed, whole⟩ := successful_without_causes successful
    rw [if_pos successful]
    constructor
    · simp [BenchmarkResult.failureCauses, BenchmarkResult.addFailure, BenchmarkResult.finish, unfailed, whole]
    · refine (last_phase_ends _ isAborted).resolve_left fun completed => ?_
      have spared := ((last_phase_completed _ isAborted).mp completed).2.1
      simp [BenchmarkResult.addFailure] at spared
  · rintro (skips | ⟨⟨⟩⟩ | unsuccessful)
    · exact absurd skips due
    · rw [unsuccessful, if_neg Bool.false_ne_true]
      exact ⟨rfl, last_phase_alike rfl rfl isAborted⟩

theorem passage_counts {deadline : Option Moment} {b : Benchmark} {c : Course σ}
    (p : s.Passage deadline b c) :
    s.Counts p.gathered p.isAborted (s.afterHooks p.gathered p.collected).1 p.result := by
  have goesOn : p.gathered.phase ≠ .failed := by
    rw [aggregate_phase p.collects]
    decide
  have unchanged : ∀ cleaned, cleaned = { p.gathered with phase := .cleaningUp } →
      (cleaned.finish (lastPhase cleaned p.isAborted) p.tidied.now).failureCauses =
          p.gathered.failureCauses ∧
        (cleaned.finish (lastPhase cleaned p.isAborted) p.tidied.now).phase =
          lastPhase p.gathered p.isAborted := by
    rintro _ rfl
    exact ⟨rfl, last_phase_alike rfl rfl p.isAborted⟩
  have tidies := clean_up_tidies s p.gathered p.collected
  rw [p.cleans] at tidies
  rw [Passage.result]
  generalize p.cleaned = cleaned at tidies
  generalize p.tidied = tidied at tidies
  cases tidies with
  | skipped skips => exact ⟨fun cause due => absurd skips due, fun _ => unchanged _ rfl⟩
  | fine due hooks =>
      rw [hooks]
      exact ⟨fun cause _ failed => absurd failed (by simp), fun _ => unchanged _ rfl⟩
  | failed due hooks =>
      rw [hooks]
      exact blame_counts goesOn due _

end Counts

/-- The hooks behind a suite are gone through once, behind all that its benchmarks do, and have no part
in what it returns. Those behind a benchmark that is accepted are gone through once, between its
executions and its end, or left out on purpose. Only a panic in the suite's own task keeps it from
coming to them. -/
theorem clean_up_runs_once (s : Suite σ) :
    (∀ benchmarks c, ∃ entries, (s.body benchmarks c).2.deeds = c.deeds ++ entries ∧
      Story s benchmarks c (s.body benchmarks c).1 entries (s.body benchmarks c).2 ∧
      (∀ names, .hooks .afterAll names ∉ entries) ∧
      match s.body benchmarks c with
      | (.error panic, ended) => s.run benchmarks c = (.error panic, ended)
      | (.ok returned, ended) => ∃ hooks work, Hook.Performed s.services none s.afterAll hooks work ∧
          (s.run benchmarks c).2.deeds = ended.deeds ++ .hooks .afterAll s.afterAll :: work ∧
          (s.run benchmarks c).1 = match hooks with
            | .error (.crashed panic) => .error panic
            | _ => .ok returned) ∧
    (∀ benchmarks c returned, (s.run benchmarks c).1 = .ok returned →
      ({ s with afterAll := [] }.run benchmarks c).1 = .ok returned) ∧
    ∀ deadline b c, b.validate = .ok () →
      (∃ entries, (s.runUntil deadline b c).2.deeds = c.deeds ++ entries ∧
        Runs s b (s.runUntil deadline b c).1 entries) ∧
      ∀ r later, s.runUntil deadline b c = (.ok r, later) →
        ∃ p : s.Passage deadline b c, r = p.result ∧
          s.Counts p.gathered p.isAborted (s.afterHooks p.gathered p.collected).1 r := by
  refine ⟨fun benchmarks c => ?_, fun _ _ _ => run_ignores, fun deadline b c valid => ?_⟩
  · obtain ⟨entries, adds, story, ends⟩ := run_story s benchmarks c
    exact ⟨entries, adds, story, story_spares_suite story, ends⟩
  · rw [run_until_accepts valid]
    refine ⟨run_accepted_runs s deadline b c, fun r later returned => ?_⟩
    obtain ⟨p, rfl, -⟩ := run_accepted_returns_iff.mp returned
    exact ⟨p, rfl, passage_counts p⟩

def untidySuite : Suite Unit :=
  ⟨{ Pool.untidy with collector := [] }, .abort, .skipOnTotalFailure, [], ["tidy"], [], none⟩

def messy : Benchmark :=
  { Benchmark.named "messy" "memory" with
    queries := ["q"]
    afterBenchmark := ["tidy", "tidy"] }

theorem untidy_benchmark_fails :
    messy.validate = .ok () ∧ ∃ p : untidySuite.Passage none messy (.start .never ()),
      p.result.failureCauses = [.hookExit "tidy" 1] ∧ p.result.phase = .failed ∧
      untidySuite.Counts p.gathered p.isAborted (untidySuite.afterHooks p.gathered p.collected).1
        p.result := by
  have valid : messy.validate = .ok () := by
    decide +kernel
  obtain ⟨r, later, returned, seen⟩ :=
    Course.shown_given (untidySuite.runUntil none messy (.start .never ()))
      (fun r => (r.failureCauses, r.phase)) ([.hookExit "tidy" 1], .failed) (by decide +kernel)
  obtain ⟨-, -, each⟩ := clean_up_runs_once untidySuite
  obtain ⟨p, rfl, counts⟩ := (each none messy (.start .never ()) valid).2 r later returned
  obtain ⟨causes, failed⟩ := Prod.mk.inj seen
  exact ⟨valid, p, causes, failed, counts⟩

def tidiesUp : Entry → Bool
  | .hooks .afterAll _ => true
  | _ => false

-- The panic of the pool goes through the suite, and its hooks are not come to.
theorem crowded_suite_left_untidy :
    ¬ ∀ (s : Suite Unit) (benchmarks : List Benchmark) (c : Course Unit),
      .hooks .afterAll s.afterAll ∈ (s.run benchmarks c).2.deeds := by
  intro tidied
  have remains : (obligingSuite.run [crowded] (.start .never ())).2.deeds.any tidiesUp = false := by
    decide +kernel
  have come := List.any_eq_true.mpr
    ⟨_, tidied obligingSuite [crowded] (.start .never ()), show tidiesUp _ = true from rfl⟩
  rw [remains] at come
  cases come

end SqlBench.Suite
