import SqlBench.Proofs.Suite.Ending
import SqlBench.Report

set_option autoImplicit false

namespace SqlBench.Suite

variable {σ : Type}

structure Agrees (r : BenchmarkResult) : Prop where
  phase : r.phase = .completed ∨ r.phase = .failed
  causes : r.status = .success ↔ r.failureCauses = []
  outcome : r.status = .success ↔
    r.phase = .completed ∧ ∀ e ∈ r.executions, e.isSuccessful = true
  report : ∀ endTime, (Report.benchmarkFinish r endTime).status = .failed ↔
    (Report.benchmarkFinish r endTime).attributes.contains "failure" = true

theorem no_causes (r : BenchmarkResult) : r.failureCauses = [] ↔
    r.failures = [] ∧ ∀ e ∈ r.executions, e.isSuccessful = true := by
  rw [BenchmarkResult.failureCauses, List.append_eq_nil_iff, List.filterMap_eq_nil_iff]
  simp [ExecutionResult.isSuccessful]

theorem status_success (r : BenchmarkResult) : r.status = .success ↔
    r.phase ≠ .failed ∧ r.failures = [] ∧ ∀ e ∈ r.executions, e.isSuccessful = true := by
  rw [← successful_iff, BenchmarkResult.status]
  cases r.isSuccessful <;> simp

theorem report_failure (r : BenchmarkResult) (endTime : Timestamp) :
    (Report.benchmarkFinish r endTime).attributes.contains "failure" = true ↔
      r.failureCauses ≠ [] := by
  cases causes : r.failureCauses with
  | nil => simp [Report.benchmarkFinish, causes, Dict.contains, Dict.get?, Dict.empty]
  | cons cause others =>
      simp [Report.benchmarkFinish, causes, Dict.contains, Dict.get?, Dict.ofList, Dict.insertMany,
        Dict.insert, Dict.empty, insertEntry]

theorem agrees_of_causes {r : BenchmarkResult} (phase : r.phase = .completed ∨ r.phase = .failed)
    (causes : r.status = .success ↔ r.failureCauses = [])
    (completed : r.phase = .completed → r.failures = []) : Agrees r := by
  refine ⟨phase, causes, ?_, fun endTime => ?_⟩
  · rw [status_success]
    constructor
    · rintro ⟨unfailed, -, all⟩
      exact ⟨phase.resolve_right unfailed, all⟩
    · rintro ⟨made, all⟩
      exact ⟨by simp [made], completed made, all⟩
  · have same : (Report.benchmarkFinish r endTime).status = r.status := rfl
    rw [report_failure, Ne, ← causes, same]
    cases r.status <;> simp

theorem rejected_agrees {r : BenchmarkResult} {cause : Failure} (failures : r.failures = [cause])
    (failed : r.phase = .failed) : Agrees r := by
  refine agrees_of_causes (.inr failed) ?_ (by simp [failed])
  rw [status_success, no_causes]
  simp [failed, failures]

theorem ending_agrees {s : Suite σ} {b : Benchmark} {r : BenchmarkResult} {isAborted : Bool}
    (valid : b.validate = .ok ()) (ending : Ending s b r isAborted) : Agrees r := by
  have ends := last_phase_ends r isAborted
  rw [← ending.phase] at ends
  refine agrees_of_causes ends ?_ ?_
  · rw [status_success, no_causes]
    refine ⟨fun success => success.2, ?_⟩
    rintro ⟨unfailed, all⟩
    obtain ⟨planned, ⟨templates, -, plans⟩, accounts⟩ := ending.accounts unfailed
    have unaborted : isAborted = false := by
      refine Bool.eq_false_iff.mpr fun aborted => ?_
      obtain ⟨e, member, failed⟩ := accounts.aborted aborted
      rw [all e member] at failed
      cases failed
    -- A valid benchmark plans at least one execution, and all of them succeeded.
    have successful : ∃ e ∈ r.executions, e.isSuccessful = true := by
      cases executions : r.executions with
      | nil =>
          have whole := accounts.whole unaborted
          rw [executions] at whole
          exact absurd whole.symm (Plan.valid_plan_some (s := ⟨b, templates, _⟩) valid plans)
      | cons e rest => exact ⟨e, List.mem_cons_self, all e (by simp [executions])⟩
    have completed := (last_phase_completed r isAborted).mpr ⟨unaborted, unfailed, successful⟩
    exact ⟨by simp [ending.phase, completed], unfailed, all⟩
  · intro completed
    rw [ending.phase, last_phase_completed] at completed
    exact completed.2.1

theorem run_until_agrees {s : Suite σ} {deadline : Option Moment} {b : Benchmark} {c later : Course σ}
    {r : BenchmarkResult} (returned : s.runUntil deadline b c = (.ok r, later)) : Agrees r := by
  cases run_until_returns returned with
  | rejected => exact rejected_agrees rfl rfl
  | passed valid p => exact ending_agrees valid p.ending

/-- Whichever way a benchmark is run, its result does not contradict itself. -/
theorem results_agree (s : Suite σ) :
    (∀ b c r later, s.runBenchmark b c = (.ok r, later) → Agrees r) ∧
    ∀ benchmarks c results later, s.run benchmarks c = (.ok (.ok results), later) →
      ∀ r ∈ results, Agrees r := by
  refine ⟨fun _ _ _ _ returned => run_until_agrees (run_benchmark_until returned), ?_⟩
  intro benchmarks c results later ran
  exact results_all (fun _ _ _ => rejected_agrees rfl rfl)
    (fun _ _ _ _ _ returned => run_until_agrees returned) benchmarks c later results ran

theorem mixed_results_agree :
    (∃ r later, obligingSuite.runBenchmark sized (.start .never ()) = (.ok r, later) ∧ Agrees r) ∧
    ∃ results later, obligingSuite.run [sized, Benchmark.named "" "memory"] (.start .never ()) =
        (.ok (.ok results), later) ∧
      results.map BenchmarkResult.status = [.success, .failed] ∧ ∀ r ∈ results, Agrees r := by
  obtain ⟨single, suite⟩ := results_agree obligingSuite
  obtain ⟨r, alone, returned, -⟩ := Course.shown_given
    (obligingSuite.runBenchmark sized (.start .never ())) BenchmarkResult.status .success
    (by decide +kernel)
  obtain ⟨results, later, ran, statuses⟩ := obligingSuite.shown_results
    [sized, Benchmark.named "" "memory"] (.start .never ()) (List.map BenchmarkResult.status)
    [.success, .failed] (by decide +kernel)
  exact ⟨⟨r, alone, returned, single _ _ _ _ returned⟩, results, later, ran, statuses,
    suite _ _ _ _ ran⟩

end SqlBench.Suite
