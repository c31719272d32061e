import SqlBench.Pool.Basic

set_option autoImplicit false

namespace SqlBench.Pool

def Numbered (a b : ExecutionResult) : Prop :=
  a.execution.number ≤ b.execution.number

theorem insert_by_number_perm (r : ExecutionResult) (sorted : List ExecutionResult) :
    (insertByNumber r sorted).Perm (r :: sorted) := by
  induction sorted with
  | nil => exact .refl _
  | cons x rest ih =>
      rw [insertByNumber]
      split
      · exact (ih.cons x).trans (.swap r x rest)
      · exact .refl _

theorem insert_by_number_sorted (r : ExecutionResult) (sorted : List ExecutionResult)
    (ordered : sorted.Pairwise Numbered) : (insertByNumber r sorted).Pairwise Numbered := by
  induction sorted with
  | nil => exact List.pairwise_singleton _ _
  | cons x rest ih =>
      obtain ⟨below, others⟩ := List.pairwise_cons.mp ordered
      rw [insertByNumber]
      split
      · rename_i before
        refine List.pairwise_cons.mpr ⟨fun y member => ?_, ih others⟩
        rcases List.mem_cons.mp ((insert_by_number_perm r rest).mem_iff.mp member) with same | later
        · exact same ▸ before
        · exact below y later
      · rename_i after
        have less : Numbered r x := Nat.le_of_not_le after
        refine List.pairwise_cons.mpr ⟨fun y member => ?_, ordered⟩
        rcases List.mem_cons.mp member with same | later
        · exact same ▸ less
        · exact Nat.le_trans less (below y later)

theorem by_number_fold (results sorted : List ExecutionResult) (ordered : sorted.Pairwise Numbered) :
    (results.foldl (fun sorted r => insertByNumber r sorted) sorted).Perm (results ++ sorted) ∧
      (results.foldl (fun sorted r => insertByNumber r sorted) sorted).Pairwise Numbered := by
  induction results generalizing sorted with
  | nil => exact ⟨.refl _, ordered⟩
  | cons r rest ih =>
      obtain ⟨same, later⟩ := ih _ (insert_by_number_sorted r sorted ordered)
      have inserted : (rest ++ insertByNumber r sorted).Perm (r :: rest ++ sorted) :=
        ((insert_by_number_perm r sorted).append_left rest).trans List.perm_middle
      exact ⟨same.trans inserted, later⟩

theorem by_number_perm (results : List ExecutionResult) : (byNumber results).Perm results := by
  simpa [byNumber] using (by_number_fold results [] .nil).1

theorem by_number_sorted (results : List ExecutionResult) : (byNumber results).Pairwise Numbered :=
  (by_number_fold results [] .nil).2

theorem by_number_ascending (results : List ExecutionResult)
    (distinct : (results.map fun r => r.execution.number).Nodup) :
    (byNumber results).Pairwise fun a b => a.execution.number < b.execution.number := by
  have different : (byNumber results).Pairwise fun a b => a.execution.number ≠ b.execution.number := by
    rw [← List.pairwise_map (f := fun r : ExecutionResult => r.execution.number) (R := Ne)]
    exact ((by_number_perm results).map _).nodup_iff.mpr distinct
  exact ((by_number_sorted results).and different).imp fun both => Nat.lt_of_le_of_ne both.1 both.2

theorem by_number_unique {results ascending : List ExecutionResult} (same : results.Perm ascending)
    (ordered : ascending.Pairwise fun a b => a.execution.number < b.execution.number) :
    byNumber results = ascending := by
  have distinct : (results.map fun r => r.execution.number).Nodup :=
    (same.map _).nodup_iff.mpr (List.pairwise_map.mpr (ordered.imp Nat.ne_of_lt))
  refine List.Perm.eq_of_pairwise (fun a b _ _ less more => absurd more (Nat.lt_asymm less))
    (by_number_ascending results distinct) ordered ((by_number_perm results).trans same)

theorem insert_by_number_map {f : ExecutionResult → ExecutionResult}
    (same : ∀ r, (f r).execution.number = r.execution.number) (r : ExecutionResult)
    (sorted : List ExecutionResult) :
    insertByNumber (f r) (sorted.map f) = (insertByNumber r sorted).map f := by
  induction sorted with
  | nil => rfl
  | cons x rest ih =>
      rw [List.map_cons, insertByNumber, insertByNumber, same, same, ih]
      split <;> rfl

theorem by_number_map {f : ExecutionResult → ExecutionResult}
    (same : ∀ r, (f r).execution.number = r.execution.number) (results : List ExecutionResult) :
    byNumber (results.map f) = (byNumber results).map f := by
  have folded : ∀ sorted : List ExecutionResult,
      (results.map f).foldl (fun sorted r => insertByNumber r sorted) (sorted.map f) =
        (results.foldl (fun sorted r => insertByNumber r sorted) sorted).map f := by
    induction results with
    | nil => exact fun _ => rfl
    | cons r rest ih =>
        intro sorted
        rw [List.map_cons, List.foldl_cons, insert_by_number_map same, ih, List.foldl_cons]
  exact folded []

end SqlBench.Pool
