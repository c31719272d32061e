import SqlBench.Proofs.Suite.Ending

set_option autoImplicit false

namespace SqlBench.Suite

variable {σ : Type}

-- The caller's stop or the time limit came before the executions were over, and left out none.
structure StoppedTooLate {s : Suite σ} {deadline : Option Moment} {b : Benchmark} {c : Course σ}
    (p : s.Passage deadline b c) : Prop where
  stopped : p.executed.isStopped = true ∨ isReached deadline p.executed.now = true
  whole : ∃ planned, s.Plans b planned ∧ p.result.executions.map ExecutionResult.execution = planned

def HasFailure (executions : List ExecutionResult) : Prop :=
  ∃ e ∈ executions, e.isSuccessful = false

section Strict

variable {s : Suite σ} {deadline : Option Moment} {c ended : Course σ} {stage : Stage}

theorem pool_aborts {p : Pool σ} (strict : p.stopOnFailure = true) {planned : List Execution}
    (failed : HasFailure (poolStage p planned c).executions) :
    (poolStage p planned c).isAborted = !p.isInterrupted (p.run planned c).course := by
  obtain ⟨e, reported, unsuccessful⟩ := failed
  have stopped := Pool.failure_stops (Pool.run_reached p planned c).1 strict reported unsuccessful
  simp [poolStage, stopped]

theorem execute_aborts {b : Benchmark} (strict : s.failurePolicy = .abort)
    (executed : s.execute b deadline c = (.ok stage, ended)) (failed : HasFailure stage.executions) :
    stage.isAborted = !(s.pool b deadline).isInterrupted ended := by
  have executes := execute_executes s b deadline c
  rw [executed] at executes
  cases executes with
  | cutShort =>
      obtain ⟨e, nobody, -⟩ := failed
      rw [attributed_executions] at nobody
      cases nobody
  | measured =>
      rw [attributed_executions] at failed
      rw [attributed_aborted]
      exact pool_aborts (decide_eq_true strict) failed

theorem prepare_aborts {r staged : BenchmarkResult} {isAborted : Bool}
    (strict : s.failurePolicy = .abort) (fresh : r.executions = [])
    (returned : s.prepareAndExecute deadline r c = (.ok (staged, isAborted), ended))
    (failed : HasFailure staged.executions) :
    isAborted = !(s.pool r.benchmark deadline).isInterrupted ended := by
  have unfailed : ¬ HasFailure r.executions := by
    rintro ⟨e, member, -⟩
    rw [fresh] at member
    cases member
  cases prepared_prepares returned with
  | refused | failed => exact absurd failed unfailed
  | staged hooks executes => exact execute_aborts strict executes failed

theorem pool_interrupted (s : Suite σ) (b : Benchmark) (deadline : Option Moment) (c : Course σ) :
    (s.pool b deadline).isInterrupted c = true ↔
      c.isStopped = true ∨ isReached deadline c.now = true := by
  rw [Pool.isInterrupted, Bool.or_eq_true]
  rfl

theorem failure_completes_iff {b : Benchmark} (p : s.Passage deadline b c)
    (strict : s.failurePolicy = .abort) (failed : HasFailure p.result.executions) :
    p.result.phase = .completed ↔ StoppedTooLate p ∧ p.result.failures = [] ∧
      ∃ e ∈ p.result.executions, e.isSuccessful = true := by
  have aborts : p.isAborted = !(s.pool b deadline).isInterrupted p.executed :=
    prepare_aborts strict rfl p.prepares (p.worsens.executions ▸ failed)
  rw [p.ending.phase, last_phase_completed, aborts, Bool.not_eq_false', pool_interrupted]
  constructor
  · rintro ⟨stopped, unfailed, sound⟩
    have completed : p.result.phase = .completed := by
      rw [p.ending.phase, last_phase_completed, aborts, Bool.not_eq_false', pool_interrupted]
      exact ⟨stopped, unfailed, sound⟩
    obtain ⟨planned, plans, accounts⟩ := p.ending.accounts unfailed
    have unaborted : p.isAborted = false := by
      rw [aborts, Bool.not_eq_false', pool_interrupted]
      exact stopped
    exact ⟨⟨stopped, planned, plans, accounts.whole unaborted⟩, unfailed, sound⟩
  · rintro ⟨⟨stopped, -⟩, unfailed, sound⟩
    exact ⟨stopped, unfailed, sound⟩

end Strict

theorem Passage.phase_ends {s : Suite σ} {deadline : Option Moment} {b : Benchmark} {c : Course σ}
    (p : s.Passage deadline b c) : p.result.phase = .completed ∨ p.result.phase = .failed :=
  last_phase_ends _ p.isAborted

theorem in_order_origin {s : Suite σ} {deadline : Option Moment} {benchmarks : List Benchmark}
    {c last : Course σ} {outcome : Except String (List BenchmarkResult)}
    (goes : InOrder s deadline benchmarks c outcome last) :
    ∀ results, outcome = .ok results → ∀ r ∈ results, r.executions = [] ∨
      ∃ b ∈ benchmarks, ∃ begun later, s.runUntil deadline b begun = (.ok r, later) := by
  have single {b : Benchmark} {c later : Course σ} {r : BenchmarkResult}
      (ran : s.runChecked deadline b c = (.ok r, later)) : r.executions = [] ∨
        ∃ begun later, s.runUntil deadline b begun = (.ok r, later) := by
    cases checked_checks ran with
    | unhealthy => exact .inl rfl
    | healthy hooks ran => exact .inr ⟨_, _, ran⟩
  induction goes with
  | finished | cut =>
      rintro _ ⟨⟩
      simp
  | @aborted b rest c last r goesOn ran =>
      rintro _ ⟨⟩ other member
      obtain rfl := List.mem_singleton.mp member
      exact (single ran).imp_right fun origin => ⟨b, List.mem_cons_self, origin⟩
  | unwound => simp
  | @next b rest c later last r outcome goesOn ran carriesOn behind ih =>
      intro results same
      cases outcome with
      | error panic => cases same
      | ok others =>
          cases same
          refine List.forall_mem_cons.mpr ⟨?_, fun other member => ?_⟩
          · exact (single ran).imp_right fun origin => ⟨b, List.mem_cons_self, origin⟩
          · refine (ih others rfl other member).imp_right ?_
            rintro ⟨b', there, origin⟩
            exact ⟨b', List.mem_cons_of_mem b there, origin⟩

/-- A failed execution fails its benchmark, unless a stop from outside came too late to leave out
any execution and nothing else is wrong with the benchmark. -/
theorem first_failure_fails (s : Suite σ) (strict : s.failurePolicy = .abort) :
    (∀ deadline b c r later, s.runUntil deadline b c = (.ok r, later) → HasFailure r.executions →
      ∃ p : s.Passage deadline b c, r = p.result ∧ later = p.ended ∧
        (r.phase = .failed ↔ ¬ (StoppedTooLate p ∧ r.failures = [] ∧
          ∃ e ∈ r.executions, e.isSuccessful = true))) ∧
    (∀ b c r later, s.runBenchmark b c = (.ok r, later) →
      s.runUntil (s.deadline c.now) b c = (.ok r, later)) ∧
    ∀ benchmarks c results later, s.run benchmarks c = (.ok (.ok results), later) →
      ∀ r ∈ results, HasFailure r.executions →
        ∃ b ∈ benchmarks, ∃ begun later,
          s.runUntil (s.deadline c.now) b begun = (.ok r, later) := by
  refine ⟨fun deadline b c r later returned failed => ?_, fun _ _ _ _ => run_benchmark_until,
    fun benchmarks c results later ran => ?_⟩
  · cases run_until_returns returned with
    | rejected =>
        obtain ⟨e, member, -⟩ := failed
        cases member
    | passed valid p =>
        refine ⟨p, rfl, rfl, ?_⟩
        rw [← failure_completes_iff p strict failed]
        rcases p.phase_ends with completed | unsuccessful
        · simp [completed]
        · simp [unsuccessful]
  · obtain ⟨begun, last, -, goes, -⟩ := run_results ran
    rintro r member ⟨e, failed, -⟩
    refine (in_order_origin (in_order_goes goes) results rfl r member).resolve_left fun nothing => ?_
    rw [nothing] at failed
    cases failed

def halting : Services Unit where
  take call _ :=
    match call with
    | .send _ statement =>
      (if statement = "FAIL" then ⟨3, 0, false, .failed (.query "no such table")⟩
        else ⟨10, 0, false, .rows 1 none⟩, ())
    | _ => (.instant .done, ())
  queries := ⟨.directory [("fail.sql", .file "FAIL".toUTF8.toList),
    ("long.sql", .file "LONG".toUTF8.toList)], ["."], Dict.empty⟩
  hooks := Dict.empty
  collector := []

def haltingSuite : Suite Unit :=
  ⟨halting, .abort, .always, [], [], [], none⟩

def paired : Benchmark :=
  { Benchmark.named "paired" "memory" with
    concurrency := 2
    queries := ["fail", "long"] }

def stopAt (t : Option Moment) : Course Unit :=
  .start ⟨false, t⟩ ()

theorem unstopped_failure_fails :
    haltingSuite.failurePolicy = .abort ∧
      ∃ r later, haltingSuite.runBenchmark paired (stopAt none) = (.ok r, later) ∧
        HasFailure r.executions ∧ r.phase = .failed := by
  obtain ⟨r, later, returned, marks⟩ :=
    Course.shown_given (haltingSuite.runBenchmark paired (stopAt none))
      (fun r => r.executions.map ExecutionResult.isSuccessful) [false, true] (by decide +kernel)
  have failed : HasFailure r.executions := by
    have shown : false ∈ r.executions.map ExecutionResult.isSuccessful := by simp [marks]
    exact List.mem_map.mp shown
  obtain ⟨fails, same, -⟩ := first_failure_fails haltingSuite rfl
  obtain ⟨p, rfl, -, ends⟩ := fails none paired _ _ _ (same _ _ _ _ returned) failed
  refine ⟨rfl, p.result, later, returned, failed, ends.mpr ?_⟩
  rintro ⟨⟨stopped, -⟩, -⟩
  rw [p.executed_eq] at stopped
  revert stopped
  decide +kernel

-- The pool stops itself over the failure at 3, and the stop at 5 hides it.
theorem late_stop_hides_failure :
    ¬ ∀ (s : Suite Unit) (b : Benchmark) (c : Course Unit) (r : BenchmarkResult) (later : Course Unit),
      s.failurePolicy = .abort → s.runBenchmark b c = (.ok r, later) →
        HasFailure r.executions → r.phase = .failed := by
  intro always
  obtain ⟨r, later, returned, seen⟩ :=
    Course.shown_given (haltingSuite.runBenchmark paired (stopAt (some 5)))
      (fun r => (r.executions.map ExecutionResult.isSuccessful, r.phase)) ([false, true], .completed)
      (by decide +kernel)
  obtain ⟨marks, completed⟩ := Prod.mk.inj seen
  have failed : HasFailure r.executions := by
    have shown : false ∈ r.executions.map ExecutionResult.isSuccessful := by simp [marks]
    exact List.mem_map.mp shown
  have ends := always haltingSuite paired (stopAt (some 5)) r later rfl returned failed
  rw [completed] at ends
  cases ends

end SqlBench.Suite
