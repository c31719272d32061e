import SqlBench.CommandLine.Listing
import SqlBench.Proofs.Odometer
import SqlBench.Proofs.Plan

set_option autoImplicit false

namespace SqlBench

namespace Width.Word

variable {w : Word} {total n : Nat} {factors : List Nat}

-- What a word tells of a number that was multiplied up in it: whether it was cut, and else the number.
structure Tells (w : Word) (total : Nat) : Prop where
  cut : w.isCut = true ↔ 2 ^ 64 ≤ total
  whole : w.isCut = false → w.value = total

theorem times_tells (tells : Tells w total) (positive : 0 < n) :
    Tells (w.times 64 n) (total * n) := by
  have grows : total ≤ total * n := Nat.le_mul_of_pos_right total positive
  cases before : w.isCut with
  | true =>
      have past : 2 ^ 64 ≤ total * n := Nat.le_trans (tells.cut.mp before) grows
      have cut : (w.times 64 n).isCut = true := by rw [times, before, Bool.true_or]
      exact ⟨iff_of_true cut past, fun whole => by rw [cut] at whole; cases whole⟩
  | false =>
      have flag : (w.times 64 n).isCut = decide (2 ^ 64 ≤ total * n) := by
        rw [times, before, tells.whole before, Bool.false_or]
        rfl
      refine ⟨by rw [flag, decide_eq_true_eq], fun whole => ?_⟩
      rw [flag, decide_eq_false_iff_not, Nat.not_le] at whole
      rw [times, tells.whole before]
      exact Nat.mod_eq_of_lt whole

-- By induction on the factors: none of them is zero, so what was once too large stays too large.
theorem fold_tells (tells : Tells w total) (positive : ∀ n ∈ factors, 0 < n) :
    Tells (factors.foldl (times 64) w) (total * factors.prod) := by
  induction factors generalizing w total with
  | nil => rwa [List.prod_nil, Nat.mul_one]
  | cons n rest ih =>
      rw [List.foldl_cons, List.prod_cons, ← Nat.mul_assoc]
      exact ih (times_tells tells (positive n List.mem_cons_self)) fun m member =>
        positive m (List.mem_cons_of_mem n member)

theorem fold_value (fits : w.value < 2 ^ 64) (factors : List Nat) :
    (factors.foldl (times 64) w).value = w.value * factors.prod % 2 ^ 64 := by
  induction factors generalizing w with
  | nil => rw [List.foldl_nil, List.prod_nil, Nat.mul_one, Nat.mod_eq_of_lt fits]
  | cons n rest ih =>
      have next : (w.times 64 n).value = w.value * n % 2 ^ 64 := rfl
      have below : (w.times 64 n).value < 2 ^ 64 := Nat.mod_lt _ (Nat.two_pow_pos 64)
      rw [List.foldl_cons, ih below, next, Nat.mod_mul_mod, List.prod_cons, Nat.mul_assoc]

end Width.Word

namespace Plan

theorem valid_combines {b : Benchmark} (valid : b.validate = .ok ()) :
    ∃ o shown all, Variables.Odometer.start b.parameters = .ok o ∧
      Variables.expand b.parameters = .ok shown ∧
      all = (if b.parameters.isEmpty then [Dict.empty] else shown) ∧
      combinations b = .ok all ∧ max o.count 1 = all.length := by
  obtain ⟨-, -, -, -, values⟩ := validate_ok valid
  obtain ⟨o, started⟩ : ∃ o, Variables.Odometer.start b.parameters = .ok o := by
    rw [Variables.Odometer.start, values]
    exact ⟨_, rfl⟩
  have expanded : Variables.expand b.parameters = .ok (o.take o.count) := by
    rw [Variables.expand, started]
    rfl
  have counted : o.count = (o.take o.count).length :=
    (Variables.turned_count (Variables.start_turned started)).trans
      (Variables.expand_length expanded).symm
  have empty := Variables.expand_empty expanded
  refine ⟨o, o.take o.count, _, started, expanded, rfl, ?_, ?_⟩
  · rw [combinations, expanded, ← empty]
    rfl
  · generalize o.take o.count = shown at counted empty
    rw [counted, ← empty]
    cases shown with
    | nil => rfl
    | cons combination rest => exact Nat.max_eq_left (Nat.succ_le_succ (Nat.zero_le _))

-- What is left of the size of a plan where it is cut to a word: the combinations are cut first, and
-- one is put for none.
def cutSize (b : Benchmark) : Nat :=
  max ((b.parameters.values.map List.length).prod % 2 ^ 64) 1 * b.runs * b.queries.length % 2 ^ 64

open Variables Width.Word

theorem word_count_tells {wheels : List Wheel} (showing : Showing wheels) (exhausted : Bool) :
    Tells { Odometer.wordCount ⟨wheels, exhausted⟩ with
        value := max (Odometer.wordCount ⟨wheels, exhausted⟩).value 1 } (volume wheels) ∧
      max (Odometer.wordCount ⟨wheels, exhausted⟩).value 1 = max (volume wheels % 2 ^ 64) 1 := by
  cases wheels with
  | nil => exact ⟨⟨iff_of_false Bool.false_ne_true (by decide), fun _ => rfl⟩, rfl⟩
  | cons wheel rest =>
      have positive : ∀ n ∈ (wheel :: rest).map fun w => w.values.length, 0 < n := by
        intro n member
        obtain ⟨w, there, rfl⟩ := List.mem_map.mp member
        exact Nat.lt_of_le_of_lt (Nat.zero_le _) (showing w there)
      have start : Tells ⟨1, false⟩ 1 := ⟨by decide, fun _ => rfl⟩
      have tells := fold_tells start positive
      have value := fold_value (w := ⟨1, false⟩) (by decide) ((wheel :: rest).map fun w => w.values.length)
      rw [Nat.one_mul] at tells value
      refine ⟨⟨tells.cut, fun whole => ?_⟩, congrArg (max · 1) value⟩
      exact (congrArg (max · 1) (tells.whole whole)).trans
        (Nat.max_eq_left (volume_positive showing))

theorem word_size_told {b : Benchmark} (valid : b.validate = .ok ()) :
    ∃ w, wordSize b = .ok w ∧ Tells w (planSize b b.runs) ∧ w.value = cutSize b := by
  obtain ⟨o, -, -, started, -⟩ := valid_combines valid
  obtain ⟨rfl, showing⟩ := start_ok started
  obtain ⟨-, -, runs, queries, -⟩ := validate_ok valid
  obtain ⟨tells, value⟩ := word_count_tells showing b.parameters.isEmpty
  have positive : ∀ n ∈ [b.runs, b.queries.length], 0 < n := by
    rintro n (_ | ⟨_, _ | ⟨_, ⟨⟩⟩⟩)
    · exact runs
    · exact List.length_pos_iff.mpr queries
  have told := fold_tells tells positive
  rw [fresh_volume] at told value
  refine ⟨_, by rw [wordSize, started]; rfl, ?_, ?_⟩
  · rwa [List.prod_pair, ← Nat.mul_assoc] at told
  · have fits : max ((b.parameters.values.map List.length).prod % 2 ^ 64) 1 < 2 ^ 64 :=
      Nat.max_lt.mpr ⟨Nat.mod_lt _ (Nat.two_pow_pos 64), by decide⟩
    rw [← value] at fits
    rw [fold_value fits, value, List.prod_pair, ← Nat.mul_assoc]
    rfl

theorem size_told {b : Benchmark} (valid : b.validate = .ok ()) :
    size b = .ok (planSize b b.runs) := by
  obtain ⟨o, shown, all, started, expanded, whole, combined, sized⟩ := valid_combines valid
  rw [size, combinationCount, started, planSize, ← combinations_length combined, ← sized]
  rfl

end Plan

namespace CommandLine

open Plan

def fits (b : Benchmark) : Bool :=
  planSize b b.runs < 2 ^ 64

theorem written_line_told (checksWords : Bool) {b : Benchmark} (valid : b.validate = .ok ()) :
    writtenLine checksWords b =
      if fits b then .ok (some (lineWith b (planSize b b.runs)))
      else if checksWords then .ok none
      else .ok (some (lineWith b (cutSize b))) := by
  obtain ⟨w, counted, tells, value⟩ := word_size_told valid
  rw [writtenLine, counted]
  cases cut : w.isCut with
  | true =>
      have past : ¬ fits b = true := by
        rw [fits, decide_eq_true_eq]
        exact Nat.not_lt.mpr (tells.cut.mp cut)
      rw [if_neg past, ← value]
      simp [cut]
  | false =>
      have whole : fits b = true := by
        rw [fits, decide_eq_true_eq, ← Nat.not_le, ← tells.cut, cut]
        exact Bool.false_ne_true
      rw [if_pos whole, listingLine, size_told valid]
      simp [cut, Except.map]

theorem listing_told (checksWords : Bool) {benchmarks : List Benchmark}
    (valid : ∀ b ∈ benchmarks, b.validate = .ok ()) :
    listing checksWords benchmarks = .ok (
      if checksWords then
        ((benchmarks.takeWhile fits).map fun b => lineWith b (planSize b b.runs), benchmarks.all fits)
      else
        (benchmarks.map fun b => lineWith b (if fits b then planSize b b.runs else cutSize b), true)) := by
  induction benchmarks with
  | nil => cases checksWords <;> rfl
  | cons b rest ih =>
      have behind := ih fun other member => valid other (List.mem_cons_of_mem b member)
      rw [listing, written_line_told checksWords (valid b List.mem_cons_self), behind]
      cases whole : fits b <;> cases checksWords <;> simp [whole, bind, Except.bind, pure, Except.pure]

end CommandLine

end SqlBench
