import SqlBench.Proofs.Suite.Journal
import SqlBench.Proofs.Suite.News
import SqlBench.Proofs.Suite.Unwinding

set_option autoImplicit false

namespace SqlBench.Suite

variable {σ : Type} {s : Suite σ} {deadline : Option Moment} {b : Benchmark}
  {benchmarks : List Benchmark} {c last : Course σ} {r : BenchmarkResult}
  {results : List BenchmarkResult} {entries : List Entry}

theorem round_own (round : Round s b c (.ok r) entries) : r.benchmark = b := by
  cases round with
  | unhealthy fails performed rejected => exact rejected.benchmark
  | invalid passes invalid performed rejected => exact rejected.benchmark
  | ran passes valid performed runs =>
      cases runs with
      | ended own => exact own

inductive Lists (s : Suite σ) (deadline : Option Moment) (last : Course σ) :
    List Benchmark → List BenchmarkResult → Prop where
  | finished : Lists s deadline last [] []
  | cut {benchmarks : List Benchmark} (isOver : IsOver deadline last) :
      Lists s deadline last benchmarks []
  | aborted {b : Benchmark} {rest : List Benchmark} {r : BenchmarkResult} (own : r.benchmark = b)
      (strict : s.failurePolicy = .abort) (failed : r.isSuccessful = false) :
      Lists s deadline last (b :: rest) [r]
  | next {b : Benchmark} {rest : List Benchmark} {r : BenchmarkResult} {others : List BenchmarkResult}
      (own : r.benchmark = b) (carriesOn : s.failurePolicy = .abort → r.isSuccessful = true)
      (behind : Lists s deadline last rest others) : Lists s deadline last (b :: rest) (r :: others)

theorem annals_lists {outcome : Except String (List BenchmarkResult)}
    (annals : Annals s deadline benchmarks c outcome entries last) :
    ∀ results, outcome = .ok results → Lists s deadline last benchmarks results := by
  induction annals with
  | finished c =>
      rintro _ ⟨⟩
      exact .finished
  | cut isOver =>
      rintro _ ⟨⟩
      exact .cut isOver
  | aborted goesOn ran round strict failed =>
      rintro _ ⟨⟩
      exact .aborted (round_own round) strict failed
  | unwound => simp
  | @next b rest c later last r entries others outcome goesOn ran round carriesOn behind ih =>
      intro results same
      cases outcome with
      | error panic => cases same
      | ok others =>
          cases same
          exact .next (round_own round) carriesOn (ih others rfl)

theorem lists_prefix (lists : Lists s deadline last benchmarks results) :
    results.map BenchmarkResult.benchmark <+: benchmarks := by
  induction lists with
  | finished => exact List.prefix_refl _
  | cut isOver => exact List.nil_prefix
  | aborted own strict failed => exact List.cons_prefix_cons.mpr ⟨own, List.nil_prefix⟩
  | next own carriesOn behind ih => exact List.cons_prefix_cons.mpr ⟨own, ih⟩

def EndsInFailure (s : Suite σ) (results : List BenchmarkResult) : Prop :=
  s.failurePolicy = .abort ∧ ∃ r, results.getLast? = some r ∧ r.isSuccessful = false

theorem lists_cut_short (lists : Lists s deadline last benchmarks results)
    (shorter : results.length < benchmarks.length) : IsOver deadline last ∨ s.EndsInFailure results := by
  induction lists with
  | finished => cases shorter
  | cut isOver => exact .inl isOver
  | aborted own strict failed => exact .inr ⟨strict, _, rfl, failed⟩
  | @next b rest r others own carriesOn behind ih =>
      rcases ih (Nat.lt_of_succ_lt_succ shorter) with isOver | ⟨strict, ending, ends, failed⟩
      · exact .inl isOver
      · refine .inr ⟨strict, ending, ?_, failed⟩
        rw [List.getLast?_cons, ends]
        rfl

theorem lists_strict (lists : Lists s deadline last benchmarks results)
    (strict : s.failurePolicy = .abort) : ∀ r ∈ results.dropLast, r.isSuccessful = true := by
  induction lists with
  | finished | cut | aborted => simp
  | @next b rest r others own carriesOn behind ih =>
      cases others with
      | nil => simp
      | cons second more =>
          rw [List.dropLast_cons_of_ne_nil (List.cons_ne_nil second more)]
          exact List.forall_mem_cons.mpr ⟨carriesOn strict, ih⟩

theorem unhealthy_rejected {cause : Failure} (fails : (s.checks b c).1 = .error (.failed cause)) :
    ∃ r work, (s.runChecked deadline b c).1 = .ok r ∧ Rejected b cause r ∧
      (s.runChecked deadline b c).2.deeds = c.deeds ++ .hooks (.healthCheck b) s.healthCheck ::
        (work ++ [.posted (.benchmarkFinished r)]) ∧
      ∀ x ∈ work, x.IsWork := by
  cases ran : s.runChecked deadline b c with
  | mk outcome later =>
  obtain ⟨entries, adds, round⟩ := run_checked_round ran
  cases round with
  | unwound crashes => cases fails.symm.trans crashes
  | @unhealthy r other work failing performed rejected =>
      cases fails.symm.trans failing
      exact ⟨r, work, rfl, rejected, adds, Hook.performed_works performed⟩
  | invalid passes | ran passes => cases fails.symm.trans passes

-- A hook of a list fails once all before it have succeeded.
def FailsAt (services : Services σ) (b : Option Benchmark) (names : List String) (c : Course σ)
    (halt : Halt) : Prop :=
  ∃ before name after, names = before ++ name :: after ∧
    (Hook.runAll services b none before c).1 = .ok () ∧
    (Hook.runAll services b none [name] (Hook.runAll services b none before c).2).1 = .error halt

theorem before_all_fails_iff (s : Suite σ) (c : Course σ) (halt : Halt) :
    (s.beforeAllHooks c).1 = .error halt ↔
      FailsAt s.services none s.beforeAll (c.note (.hooks .beforeAll s.beforeAll)) halt := by
  rw [FailsAt, ← Hook.run_all_fails_iff]
  rfl

theorem run_fails_iff (s : Suite σ) (benchmarks : List Benchmark) (c : Course σ) (cause : Failure) :
    (s.run benchmarks c).1 = .ok (.error cause) ↔
      s.tellsDeadline c.now = true ∧
        FailsAt s.services none s.beforeAll (c.note (.hooks .beforeAll s.beforeAll)) (.failed cause) ∧
        (s.cleanUpAll (s.beforeAllHooks c).2).1 = .ok () := by
  rw [← before_all_fails_iff]
  constructor
  · intro failed
    obtain ⟨ended, body, tidied⟩ := run_returns (Prod.ext failed rfl)
    generalize outcomes : (Except.ok (Except.error cause) :
      Except String (Except Failure (List BenchmarkResult))) = outcome at body
    cases body with
    | pastClock | unprepared => cases outcomes
    | refused tells hooks =>
        cases outcomes
        rw [hooks, tidied]
        exact ⟨tells, rfl, rfl⟩
    | @ran begun last outcome tells hooks goes => cases outcome <;> cases outcomes
  · rintro ⟨tells, failed, tidied⟩
    rw [run_closes, body, if_pos tells]
    generalize s.beforeAllHooks c = hooks at failed tidied ⊢
    obtain ⟨outcome, begun⟩ := hooks
    cases failed
    dsimp only [closed]
    rw [tidied]
    rfl

def Returned (s : Suite σ) (benchmarks : List Benchmark) (c : Course σ) (deeds : List Entry) :
    Except Failure (List BenchmarkResult) → Prop
  | .error _ => ∃ setup work, (∀ x ∈ setup ++ work, x.IsWork) ∧
      deeds = c.deeds ++ .hooks .beforeAll s.beforeAll :: (setup ++ .hooks .afterAll s.afterAll :: work)
  | .ok results => ∃ setup begun entries last work, (∀ x ∈ setup ++ work, x.IsWork) ∧
      deeds = c.deeds ++ .hooks .beforeAll s.beforeAll ::
        (setup ++ entries ++ .hooks .afterAll s.afterAll :: work) ∧
      Annals s (s.deadline c.now) benchmarks begun (.ok results) entries last ∧
      results.map BenchmarkResult.benchmark <+: benchmarks ∧
      (results.length < benchmarks.length →
        IsOver (s.deadline c.now) last ∨ s.EndsInFailure results) ∧
      (s.failurePolicy = .abort → ∀ r ∈ results.dropLast, r.isSuccessful = true)

theorem run_returned {returned : Except Failure (List BenchmarkResult)}
    (ran : (s.run benchmarks c).1 = .ok returned) :
    s.Returned benchmarks c (s.run benchmarks c).2.deeds returned := by
  obtain ⟨entries, adds, story, ends⟩ := run_story s benchmarks c
  generalize s.body benchmarks c = body at adds story ends
  obtain ⟨outcome, ended⟩ := body
  cases outcome with
  | error panic =>
      rw [ends] at ran
      cases ran
  | ok value =>
      obtain ⟨hooks, work, performed, closes, same⟩ := ends
      have tidies := Hook.performed_works performed
      have value_same : value = returned := by
        rw [ran] at same
        cases hooks with
        | ok => exact (Except.ok.inj same).symm
        | error halt =>
            cases halt with
            | failed cause => exact (Except.ok.inj same).symm
            | crashed panic => cases same
      subst value_same
      rw [closes, adds]
      generalize outcomes : (Except.ok value :
        Except String (Except Failure (List BenchmarkResult))) = outcome at story
      cases story with
      | pastClock | unprepared => cases outcomes
      | @refused cause begun setup hooks prepared =>
          cases outcomes
          refine ⟨setup, work, ?_, by simp⟩
          exact List.forall_mem_append.mpr ⟨Hook.performed_works prepared, tidies⟩
      | @ran begun last setup entries outcome hooks prepared annals =>
          cases outcome with
          | error panic => cases outcomes
          | ok results =>
              cases outcomes
              have lists := annals_lists annals results rfl
              refine ⟨setup, begun, entries, _, work, ?_, by simp, annals, lists_prefix lists,
                lists_cut_short lists, lists_strict lists⟩
              exact List.forall_mem_append.mpr ⟨Hook.performed_works prepared, tidies⟩

/-- Unless a panic unwinds a suite, it returns a failure if the hooks before all fail, and then no
benchmark is looked at. Otherwise its results belong to its first benchmarks, in their order, and what
is left out has its reason. -/
theorem suite_results_in_order (s : Suite σ) :
    (∀ benchmarks c cause, (s.run benchmarks c).1 = .ok (.error cause) ↔
      s.tellsDeadline c.now = true ∧
        FailsAt s.services none s.beforeAll (c.note (.hooks .beforeAll s.beforeAll)) (.failed cause) ∧
        (s.cleanUpAll (s.beforeAllHooks c).2).1 = .ok ()) ∧
    (∀ benchmarks c, match (s.run benchmarks c).1 with
      | .error panic => s.Panics benchmarks c panic
      | .ok returned => s.Returned benchmarks c (s.run benchmarks c).2.deeds returned) ∧
    ∀ deadline b c cause, (s.checks b c).1 = .error (.failed cause) →
      ∃ r work, (s.runChecked deadline b c).1 = .ok r ∧ Rejected b cause r ∧
        (s.runChecked deadline b c).2.deeds = c.deeds ++ .hooks (.healthCheck b) s.healthCheck ::
          (work ++ [.posted (.benchmarkFinished r)]) ∧
        ∀ x ∈ work, x.IsWork := by
  refine ⟨run_fails_iff s, fun benchmarks c => ?_, fun deadline b c cause => unhealthy_rejected⟩
  cases ran : (s.run benchmarks c).1 with
  | error panic => exact run_panics ran
  | ok returned => exact run_returned ran

def fading : Services Nat where
  take call used :=
    match call with
    | .send .. => (⟨3, 0, false, .rows 1 none⟩, used)
    | .shell hook _ _ => (.instant (if used = 0 then .done else .failed (.hookExit hook 1)), used + 1)
    | .connect _ => (.instant .done, used)
  queries := ⟨.directory [("q.sql", .file "SELECT 1".toUTF8.toList)], ["."], Dict.empty⟩
  hooks := Dict.ofList [("probe", some "true")]
  collector := []

def fadingSuite : Suite Nat :=
  ⟨fading, .abort, .always, [], [], ["probe"], none⟩

def simple (name : String) : Benchmark :=
  { Benchmark.named name "memory" with queries := ["q"] }

theorem fading_suite_ends_in_failure :
    ∃ results, (fadingSuite.run [simple "a", simple "b", simple "c"] (.start .never 0)).1 =
        .ok (.ok results) ∧
      results.map (fun r => (r.benchmark.name, r.isSuccessful)) = [("a", true), ("b", false)] ∧
      fadingSuite.Returned [simple "a", simple "b", simple "c"] (.start .never 0)
        (fadingSuite.run [simple "a", simple "b", simple "c"] (.start .never 0)).2.deeds (.ok results) := by
  obtain ⟨results, later, ran, names⟩ :=
    fadingSuite.shown_results [simple "a", simple "b", simple "c"] (.start .never 0)
      (List.map fun r => (r.benchmark.name, r.isSuccessful)) [("a", true), ("b", false)]
      (by decide +kernel)
  obtain ⟨-, ends, -⟩ := suite_results_in_order fadingSuite
  have returned := ends [simple "a", simple "b", simple "c"] (.start .never 0)
  rw [ran] at returned ⊢
  exact ⟨results, rfl, names, returned⟩

-- A panic of its pool keeps a suite from returning anything.
theorem crowded_suite_returns_nothing :
    ¬ ∀ (s : Suite Unit) (benchmarks : List Benchmark) (c : Course Unit),
      ∃ returned, (s.run benchmarks c).1 = .ok returned := by
  intro returns
  obtain ⟨returned, ran⟩ := returns obligingSuite [crowded] (.start .never ())
  have panics : (obligingSuite.run [crowded] (.start .never ())).1.toOption.isSome = false := by
    decide +kernel
  rw [ran] at panics
  cases panics

end SqlBench.Suite
