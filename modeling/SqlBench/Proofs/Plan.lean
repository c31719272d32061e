import SqlBench.Plan
import SqlBench.Proofs.Variables

set_option autoImplicit false

namespace SqlBench.Plan

theorem bind_ok {α β : Type} {x : Except Failure α} {f : α → Except Failure β} {result : β}
    (ok : (x >>= f) = .ok result) : ∃ a, x = .ok a ∧ f a = .ok result := by
  cases x with
  | error cause => cases ok
  | ok a => exact ⟨a, rfl, ok⟩

theorem execution_ok {s : Source} {combination : Attributes} {run number : Nat} {query : String}
    {e : Execution} (ok : execution s combination run number query = .ok e) :
    e.number = number ∧ e.benchmark = s.benchmark := by
  rw [execution] at ok
  split at ok
  · cases ok
  · split at ok
    · cases ok
      exact ⟨rfl, rfl⟩
    · cases ok

theorem run_numbers {s : Source} {combination : Attributes} {run number : Nat}
    {queries : List String} {planned : List Execution}
    (ok : ofRun s combination run number queries = .ok planned) :
    planned.map Execution.number = List.range' number queries.length := by
  induction queries generalizing number planned with
  | nil =>
      cases ok
      rfl
  | cons query rest ih =>
      rw [ofRun] at ok
      obtain ⟨first, begun, ok⟩ := bind_ok ok
      obtain ⟨others, behind, ok⟩ := bind_ok ok
      cases ok
      rw [List.map_cons, (execution_ok begun).1, ih behind, List.length_cons, List.range'_succ]

theorem combination_numbers {s : Source} {combination : Attributes} {more run number : Nat}
    {planned : List Execution} (ok : ofCombination s combination more run number = .ok planned) :
    planned.map Execution.number = List.range' number (more * s.benchmark.queries.length) := by
  induction more generalizing run number planned with
  | zero =>
      cases ok
      rw [Nat.zero_mul]
      rfl
  | succ more ih =>
      rw [ofCombination] at ok
      obtain ⟨first, begun, ok⟩ := bind_ok ok
      obtain ⟨others, behind, ok⟩ := bind_ok ok
      cases ok
      rw [List.map_append, run_numbers begun, ih behind, List.range'_append_1, Nat.succ_mul,
        Nat.add_comm]

theorem combinations_numbers {s : Source} {runs number : Nat} {all : List Attributes}
    {planned : List Execution} (ok : ofCombinations s runs number all = .ok planned) :
    planned.map Execution.number =
      List.range' number (all.length * (runs * s.benchmark.queries.length)) := by
  induction all generalizing number planned with
  | nil =>
      cases ok
      rw [List.length_nil, Nat.zero_mul]
      rfl
  | cons combination rest ih =>
      rw [ofCombinations] at ok
      obtain ⟨first, begun, ok⟩ := bind_ok ok
      obtain ⟨others, behind, ok⟩ := bind_ok ok
      cases ok
      rw [List.map_append, combination_numbers begun, ih behind, List.range'_append_1,
        List.length_cons, Nat.succ_mul, Nat.add_comm]

theorem combinations_ok {b : Benchmark} {all : List Attributes} (ok : combinations b = .ok all) :
    ∃ shown, Variables.expand b.parameters = .ok shown ∧
      all = if b.parameters.isEmpty then [Dict.empty] else shown := by
  cases expanded : Variables.expand b.parameters with
  | error cause =>
      rw [combinations, expanded] at ok
      cases ok
  | ok shown =>
      rw [combinations, expanded] at ok
      cases ok
      exact ⟨shown, rfl, by rw [← Variables.expand_empty expanded]⟩

theorem combinations_length {b : Benchmark} {all : List Attributes}
    (ok : combinations b = .ok all) : all.length = (b.parameters.values.map List.length).prod := by
  obtain ⟨shown, expanded, rfl⟩ := combinations_ok ok
  have length := Variables.expand_length expanded
  cases empty : b.parameters.isEmpty with
  | true =>
      have bare : b.parameters.toList = [] := List.isEmpty_iff.mp empty
      rw [Dict.values, bare]
      rfl
  | false =>
      rw [empty, if_neg Bool.false_ne_true] at length
      exact length

def planSize (b : Benchmark) (runs : Nat) : Nat :=
  (b.parameters.values.map List.length).prod * runs * b.queries.length

theorem executions_numbers {s : Source} {runs : Nat} {planned : List Execution}
    (ok : executions s runs = .ok planned) :
    planned.map Execution.number = List.range (planSize s.benchmark runs) := by
  rw [executions] at ok
  obtain ⟨all, combined, ok⟩ := bind_ok ok
  rw [combinations_numbers ok, combinations_length combined, planSize, ← List.range_eq_range',
    Nat.mul_assoc]

theorem executions_ascend {s : Source} {runs : Nat} {planned : List Execution}
    (ok : executions s runs = .ok planned) :
    planned.Pairwise fun a b => a.number < b.number := by
  rw [← List.pairwise_map (f := Execution.number) (R := (· < ·)), executions_numbers ok]
  exact List.pairwise_lt_range

theorem executions_length {s : Source} {runs : Nat} {planned : List Execution}
    (ok : executions s runs = .ok planned) : planned.length = planSize s.benchmark runs := by
  rw [← List.length_map (f := Execution.number), executions_numbers ok, List.length_range]

theorem validate_ok {b : Benchmark} (valid : b.validate = .ok ()) :
    b.name.isEmpty = false ∧ 1 ≤ b.concurrency ∧ 1 ≤ b.runs ∧ b.queries ≠ [] ∧
      Benchmark.emptyVariable? b.parameters = none := by
  rw [Benchmark.validate] at valid
  split at valid
  · cases valid
  · rename_i named
    split at valid
    · cases valid
    · rename_i concurrent
      split at valid
      · cases valid
      · rename_i runs
        split at valid
        · cases valid
        · rename_i queries
          split at valid
          · cases valid
          · rename_i values
            exact ⟨Bool.eq_false_iff.mpr named, Nat.le_of_not_lt concurrent, Nat.le_of_not_lt runs,
              fun bare => queries (List.isEmpty_iff.mpr bare), values⟩

theorem valid_plan_some {s : Source} (valid : s.benchmark.validate = .ok ())
    {planned : List Execution} (ok : executions s s.benchmark.runs = .ok planned) : planned ≠ [] := by
  obtain ⟨-, -, runs, queries, -⟩ := validate_ok valid
  have values : 0 < (s.benchmark.parameters.values.map List.length).prod := by
    rw [executions] at ok
    obtain ⟨all, combined, -⟩ := bind_ok ok
    obtain ⟨shown, expanded, -⟩ := combinations_ok combined
    exact Variables.values_multiply expanded
  have size : 0 < planned.length := by
    rw [executions_length ok]
    exact Nat.mul_pos (Nat.mul_pos values runs) (List.length_pos_iff.mpr queries)
  exact List.ne_nil_of_length_pos size

end SqlBench.Plan
