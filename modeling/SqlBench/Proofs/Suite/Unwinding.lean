import SqlBench.Proofs.Suite.Ending

set_option autoImplicit false

namespace SqlBench.Suite

variable {σ : Type} {s : Suite σ} {deadline : Option Moment} {b : Benchmark}
  {benchmarks : List Benchmark} {c last : Course σ} {r : BenchmarkResult} {panic : String}

-- Where the panic can come from that unwinds a suite while it is about a benchmark.
inductive Unwinds (s : Suite σ) (b : Benchmark) (panic : String) : Prop where
  | checking {c : Course σ} (hooks : (s.checks b c).1 = .error (.crashed panic)) : Unwinds s b panic
  | preparing {c : Course σ} (hooks : (s.beforeHooks b c).1 = .error (.crashed panic)) : Unwinds s b panic
  | crowded {deadline : Option Moment} (fails : (s.pool b deadline).setUp = .error (.crashed panic)) :
      Unwinds s b panic
  | asking {r : BenchmarkResult} {c : Course σ} (own : r.benchmark = b)
      (answers : (s.answered r c).1 = .error (.crashed panic)) : Unwinds s b panic
  | tidying {r : BenchmarkResult} {c : Course σ} (own : r.benchmark = b)
      (hooks : (s.afterHooks r c).1 = .error (.crashed panic)) : Unwinds s b panic

theorem execute_unwinds (crashed : (s.execute b deadline c).1 = .error (.crashed panic)) :
    s.Unwinds b panic := by
  have executes := execute_executes s b deadline c
  rw [crashed] at executes
  generalize (s.execute b deadline c).2 = ended at executes
  cases executes with
  | unfit loads fails => exact .crowded fails

theorem prepare_unwinds (unwound : (s.prepareAndExecute deadline r c).1 = .error panic) :
    s.Unwinds r.benchmark panic := by
  have prepares := prepare_prepares s deadline r c
  rw [unwound] at prepares
  cases prepares with
  | unwound hooks => exact .preparing (congrArg Prod.fst hooks)
  | crashed hooks executes => exact execute_unwinds (congrArg Prod.fst executes)

theorem aggregate_unwinds (unwound : (s.aggregate r c).1 = .error panic) :
    s.Unwinds r.benchmark panic := by
  have sums := aggregate_sums s r c
  rw [unwound] at sums
  cases sums with
  | unwound answers => exact .asking rfl (congrArg Prod.fst answers)

theorem clean_up_unwinds (unwound : (s.cleanUp r c).1 = .error panic) : s.Unwinds r.benchmark panic := by
  have tidies := clean_up_tidies s r c
  rw [unwound] at tidies
  cases tidies with
  | unwound due hooks => exact .tidying rfl (congrArg Prod.fst hooks)

theorem accepted_unwinds (unwound : s.runAccepted deadline b c = (.error panic, last)) :
    s.Unwinds b panic := by
  rw [runAccepted] at unwound
  rcases Course.and_then_stops_iff.mp unwound with stops | ⟨staged, executed, prepares, unwound⟩
  · exact prepare_unwinds (congrArg Prod.fst stops)
  · have staged_own : staged.1.benchmark = b := prepare_benchmark prepares
    rcases Course.and_then_stops_iff.mp unwound with stops | ⟨gathered, collected, collects, unwound⟩
    · exact staged_own ▸ aggregate_unwinds (congrArg Prod.fst stops)
    · have own := (aggregate_benchmark collects).trans staged_own
      rcases Course.and_then_stops_iff.mp unwound with stops | ⟨cleaned, tidied, cleans, ends⟩
      · exact own ▸ clean_up_unwinds (congrArg Prod.fst stops)
      · cases ends

theorem checked_unwinds (unwound : s.runChecked deadline b c = (.error panic, last)) :
    s.Unwinds b panic := by
  cases checked_checks unwound with
  | unwound hooks => exact .checking (congrArg Prod.fst hooks)
  | healthy hooks ran =>
      cases valid : b.validate with
      | error cause =>
          rw [run_until_rejects valid] at ran
          cases ran
      | ok =>
          rw [run_until_accepts valid] at ran
          exact accepted_unwinds ran

theorem in_order_unwinds {outcome : Except String (List BenchmarkResult)}
    (goes : InOrder s deadline benchmarks c outcome last) :
    ∀ panic, outcome = .error panic → ∃ b ∈ benchmarks, s.Unwinds b panic := by
  induction goes with
  | finished | cut | aborted => simp
  | unwound goesOn ran =>
      rintro _ ⟨⟩
      exact ⟨_, List.mem_cons_self, checked_unwinds ran⟩
  | @next b rest c later last r outcome goesOn ran carriesOn behind ih =>
      intro panic same
      cases outcome with
      | ok others => cases same
      | error other =>
          cases same
          obtain ⟨b, member, unwinds⟩ := ih panic rfl
          exact ⟨b, List.mem_cons_of_mem _ member, unwinds⟩

inductive Panics (s : Suite σ) (benchmarks : List Benchmark) (c : Course σ) : String → Prop where
  | pastClock (tells : s.tellsDeadline c.now = false) : Panics s benchmarks c Instant.overflow
  | beforeAll {panic : String} (hooks : (s.beforeAllHooks c).1 = .error (.crashed panic)) :
      Panics s benchmarks c panic
  | within {panic : String} {b : Benchmark} (member : b ∈ benchmarks) (unwinds : s.Unwinds b panic) :
      Panics s benchmarks c panic
  | afterAll {panic : String} {ended : Course σ}
      (hooks : (Hook.bracket s.services .afterAll none s.afterAll ended).1 = .error (.crashed panic)) :
      Panics s benchmarks c panic

theorem clean_up_all_panics (panicked : (s.cleanUpAll c).1 = .error panic) :
    (Hook.bracket s.services .afterAll none s.afterAll c).1 = .error (.crashed panic) := by
  rw [cleanUpAll] at panicked
  generalize Hook.bracket s.services .afterAll none s.afterAll c = hooks at panicked ⊢
  obtain ⟨outcome, later⟩ := hooks
  cases outcome with
  | ok => cases panicked
  | error halt =>
      cases halt with
      | failed cause => cases panicked
      | crashed other => exact congrArg (Except.error ∘ Halt.crashed) (Except.error.inj panicked)

theorem run_panics (panicked : (s.run benchmarks c).1 = .error panic) : s.Panics benchmarks c panic := by
  have body := body_goes s benchmarks c
  rw [run_closes] at panicked
  generalize s.body benchmarks c = done at body panicked
  obtain ⟨outcome, ended⟩ := done
  cases outcome with
  | ok returned =>
      rw [closed] at panicked
      cases tidied : (s.cleanUpAll ended).1 with
      | ok => simp [tidied, Except.map] at panicked
      | error other =>
          simp only [tidied, Except.map, Except.error.injEq] at panicked
          exact .afterAll (clean_up_all_panics (panicked ▸ tidied))
  | error other =>
      cases panicked
      generalize outcomes : (Except.error panic :
        Except String (Except Failure (List BenchmarkResult))) = outcome at body
      cases body with
      | pastClock tells =>
          cases outcomes
          exact .pastClock tells
      | unprepared tells hooks =>
          cases outcomes
          exact .beforeAll (congrArg Prod.fst hooks)
      | refused => cases outcomes
      | @ran begun last outcome tells hooks goes =>
          cases outcome with
          | ok results => cases outcomes
          | error other =>
              cases outcomes
              obtain ⟨b, member, unwinds⟩ := in_order_unwinds (in_order_goes goes) panic rfl
              exact .within member unwinds

end SqlBench.Suite
