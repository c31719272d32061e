import SqlBench.Proofs.Statistics
import SqlBench.Proofs.Suite.Abort

set_option autoImplicit false

namespace SqlBench.Suite

variable {σ : Type}

structure Gathers (r : BenchmarkResult) : Prop where
  inOrder : r.executions.Pairwise fun a b => a.execution.number < b.execution.number
  uniform : ¬ Statistics.Conflict (samples r) → Statistics.aggregateByName (samples r) = .ok r.aggregates
  mixed : Statistics.Conflict (samples r) → r.aggregates = Dict.empty ∧
    ∃ first second, Statistics.Clash (samples r) first second ∧
      .invalid (.mixedUnits second.name first.unit second.unit) ∈ r.failures

theorem staged_ascends {s : Suite σ} {deadline : Option Moment} {b : Benchmark} {c : Course σ}
    (p : s.Passage deadline b c) : p.staged.executions.Pairwise
      fun a b => a.execution.number < b.execution.number := by
  rcases prepare_results rfl p.prepares with idle | ⟨planned, begun, ascending, results⟩
  · rw [idle]
    exact .nil
  · have distinct : (planned.map Execution.number).Nodup :=
      List.pairwise_map.mpr (ascending.imp Nat.ne_of_lt)
    rw [results]
    exact (Pool.done_is_settled rfl distinct (Pool.run_reached _ planned begun).1
      (Pool.run_done _ planned begun)).ascending

theorem provided_aggregates (r : BenchmarkResult) (answer : Except Failure (List Measurement)) :
    (provided r answer).aggregates = r.aggregates := by
  cases answer <;> rfl

theorem summarise_gathers {r : BenchmarkResult} (fresh : r.aggregates = Dict.empty)
    (inOrder : r.executions.Pairwise fun a b => a.execution.number < b.execution.number) :
    Gathers (summarise r) := by
  have same : samples (summarise r) = samples r := by
    rw [samples, samples, (summarise_worsens r).executions]
  refine ⟨(summarise_worsens r).executions ▸ inOrder, ?_, ?_⟩
  all_goals
    rw [same]
    rcases Statistics.aggregate_by_name_cases (samples r) with
      ⟨first, second, clash, fails⟩ | ⟨table, made, -, uniform⟩
    <;> rcases summarise_cases r with ⟨aggregates, told, goes⟩ | ⟨cause, told, goes⟩
  · cases fails.symm.trans told
  · exact fun uniform => absurd clash.conflict uniform
  · rw [goes]
    exact fun _ => told
  · cases made.symm.trans told
  · cases fails.symm.trans told
  · cases fails.symm.trans told
    rw [goes]
    exact fun _ => ⟨fresh, first, second, clash, List.mem_append_right _ List.mem_cons_self⟩
  · exact fun conflict => absurd conflict uniform
  · exact fun conflict => absurd conflict uniform

theorem aggregate_gathers {s : Suite σ} {r found : BenchmarkResult} {c later : Course σ}
    (fresh : r.aggregates = Dict.empty)
    (inOrder : r.executions.Pairwise fun a b => a.execution.number < b.execution.number)
    (returned : s.aggregate r c = (.ok found, later)) : Gathers found := by
  have sums := aggregate_sums s r c
  rw [returned] at sums
  cases sums with
  | @answered answer =>
      refine summarise_gathers ((provided_aggregates _ answer).trans fresh) ?_
      rw [(provided_worsens _ answer).executions]
      exact inOrder

theorem clean_up_gathers {s : Suite σ} {r cleaned : BenchmarkResult} {c later : Course σ}
    (gathers : Gathers r) (returned : s.cleanUp r c = (.ok cleaned, later)) : Gathers cleaned := by
  obtain ⟨more, rfl, -⟩ := clean_up_adds returned
  refine ⟨gathers.inOrder, gathers.uniform, fun conflict => ?_⟩
  obtain ⟨nothing, first, second, clash, noted⟩ := gathers.mixed conflict
  exact ⟨nothing, first, second, clash, List.mem_append_left _ noted⟩

theorem rejection_gathers (b : Benchmark) (cause : Failure) (c : Course σ) :
    Gathers (rejection b cause c) := by
  refine ⟨.nil, fun _ => rfl, ?_⟩
  rintro ⟨first, member, -⟩
  cases member

theorem run_until_gathers {s : Suite σ} {deadline : Option Moment} {b : Benchmark} {c later : Course σ}
    {r : BenchmarkResult} (returned : s.runUntil deadline b c = (.ok r, later)) : Gathers r := by
  cases run_until_returns returned with
  | rejected => exact rejection_gathers _ _ _
  | passed valid p =>
      have fresh : p.staged.aggregates = Dict.empty := by
        obtain ⟨phase, failures, executions, fills⟩ := prepare_fills p.prepares
        rw [fills]
        rfl
      have gathered := aggregate_gathers fresh (staged_ascends p) p.collects
      obtain ⟨inOrder, uniform, mixed⟩ := clean_up_gathers gathered p.cleans
      exact ⟨inOrder, uniform, mixed⟩

/-- Statistics fail if and only if units differ under one name, and over nothing else; otherwise they
are those of each name. Those of a benchmark are over its successful executions. -/
theorem statistics_by_name :
    (∀ measurements : List Measurement,
      ((∃ reason, Statistics.aggregateByName measurements = .error (.invalid reason)) ↔
        Statistics.Conflict measurements) ∧
      (∀ cause, Statistics.aggregateByName measurements = .error cause →
        ∃ first second, Statistics.Clash measurements first second ∧
          cause = .invalid (.mixedUnits second.name first.unit second.unit)) ∧
      ∀ table, Statistics.aggregateByName measurements = .ok table →
        Statistics.Tabulates measurements table) ∧
    ∀ s : Suite σ, (∀ b c r later, s.runBenchmark b c = (.ok r, later) → Gathers r) ∧
      ∀ benchmarks c results later, s.run benchmarks c = (.ok (.ok results), later) →
        ∀ r ∈ results, Gathers r := by
  refine ⟨fun measurements => ?_, fun s =>
    ⟨fun _ _ _ _ returned => run_until_gathers (run_benchmark_until returned),
      fun benchmarks c results later => results_all rejection_gathers
        (fun _ _ _ _ _ returned => run_until_gathers returned) benchmarks c later results⟩⟩
  rcases Statistics.aggregate_by_name_cases measurements with
    ⟨first, second, clash, fails⟩ | ⟨table, made, tabulates, uniform⟩
  · rw [fails]
    refine ⟨iff_of_true ⟨_, rfl⟩ clash.conflict, fun cause same => ?_, by simp⟩
    cases same
    exact ⟨first, second, clash, rfl⟩
  · rw [made]
    refine ⟨iff_of_false (by simp) uniform, by simp, fun other same => ?_⟩
    cases same
    exact tabulates

def metered : Services Unit :=
  { halting with
    collector := [(.required, fun subject world =>
      match subject with
      | .execution r =>
        (.instant (.ok [⟨"scan", if r.execution.number = 0 then .bytes else .plain, 1.0⟩]), world)
      | .benchmark _ => (.instant (.ok []), world))] }

def meteredSuite : Suite Unit :=
  ⟨metered, .carryOn, .always, [], [], [], none⟩

theorem mixed_units_noted :
    ∃ results later, meteredSuite.run [paired, { paired with queries := ["long", "long"] }]
        (stopAt none) = (.ok (.ok results), later) ∧
      results.map (fun r => decide (Statistics.Conflict (samples r))) = [false, true] ∧
      ∀ r ∈ results, (¬ Statistics.Conflict (samples r) → Statistics.Tabulates (samples r) r.aggregates) ∧
        (Statistics.Conflict (samples r) → r.aggregates = Dict.empty ∧
          ∃ first second : Measurement, Statistics.aggregateByName (samples r) =
            .error (.invalid (.mixedUnits second.name first.unit second.unit))) := by
  obtain ⟨results, later, ran, conflicts⟩ := meteredSuite.shown_results
    [paired, { paired with queries := ["long", "long"] }] (stopAt none)
    (List.map fun r => decide (Statistics.Conflict (samples r))) [false, true] (by decide +kernel)
  obtain ⟨pure, suites⟩ := statistics_by_name (σ := Unit)
  obtain ⟨-, gathers⟩ := suites meteredSuite
  refine ⟨results, later, ran, conflicts, fun r member => ⟨fun uniform => ?_, fun mixed => ?_⟩⟩
  · exact (pure _).2.2 _ ((gathers _ _ _ _ ran r member).uniform uniform)
  · obtain ⟨reason, fails⟩ := (pure _).1.mpr mixed
    obtain ⟨first, second, -, same⟩ := (pure _).2.1 _ fails
    exact ⟨((gathers _ _ _ _ ran r member).mixed mixed).1, first, second, same ▸ fails⟩

end SqlBench.Suite
