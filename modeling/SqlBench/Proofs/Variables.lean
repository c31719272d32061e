import Mathlib.Algebra.Ring.Nat
import SqlBench.Variables

set_option autoImplicit false

namespace SqlBench.Variables

def volume (wheels : List Wheel) : Nat :=
  (wheels.map fun w => w.values.length).prod

def remaining : List Wheel → Nat
  | [] => 1
  | w :: rest => (w.values.length - w.index - 1) * volume rest + remaining rest

def Showing (wheels : List Wheel) : Prop :=
  ∀ w ∈ wheels, w.index < w.values.length

def dials (wheels : List Wheel) : List (String × List String) :=
  wheels.map fun w => (w.key, w.values)

theorem advance_dials (wheels : List Wheel) : dials (advance wheels).1 = dials wheels := by
  induction wheels with
  | nil => rfl
  | cons w rest ih =>
      rw [advance]
      split
      · rename_i turned moved
        rw [moved] at ih
        exact congrArg ((w.key, w.values) :: ·) ih
      · rename_i turned moved
        rw [moved] at ih
        split
        all_goals exact congrArg ((w.key, w.values) :: ·) ih

theorem volume_of_dials (wheels : List Wheel) :
    volume wheels = ((dials wheels).map fun d => d.2.length).prod := by
  rw [dials, List.map_map]
  rfl

theorem advance_volume (wheels : List Wheel) : volume (advance wheels).1 = volume wheels := by
  rw [volume_of_dials, advance_dials, ← volume_of_dials]

theorem advance_showing {wheels : List Wheel} (showing : Showing wheels) :
    Showing (advance wheels).1 := by
  induction wheels with
  | nil => exact showing
  | cons w rest ih =>
      have below := showing w List.mem_cons_self
      have behind := ih fun v member => showing v (List.mem_cons_of_mem w member)
      rw [advance]
      split
      · rename_i turned moved
        rw [moved] at behind
        exact List.forall_mem_cons.mpr ⟨below, behind⟩
      · rename_i turned moved
        rw [moved] at behind
        split
        · rename_i more
          exact List.forall_mem_cons.mpr ⟨more, behind⟩
        · exact List.forall_mem_cons.mpr ⟨Nat.lt_of_le_of_lt (Nat.zero_le _) below, behind⟩

theorem advance_remaining {wheels : List Wheel} (showing : Showing wheels) :
    if (advance wheels).2 then remaining wheels = 1 ∧ remaining (advance wheels).1 = volume wheels
    else remaining (advance wheels).1 + 1 = remaining wheels := by
  induction wheels with
  | nil => simp [advance, remaining, volume]
  | cons w rest ih =>
      have below := showing w List.mem_cons_self
      have behind := ih fun v member => showing v (List.mem_cons_of_mem w member)
      have same := advance_volume rest
      rw [advance]
      split
      · rename_i turned moved
        rw [moved] at behind same
        simp only [Bool.false_eq_true, if_false] at behind ⊢
        simp only [remaining, same]
        omega
      · rename_i turned moved
        rw [moved] at behind same
        simp only [if_true] at behind
        obtain ⟨last, anew⟩ := behind
        split
        · rename_i more
          have fewer : w.values.length - w.index - 1 = w.values.length - (w.index + 1) - 1 + 1 := by
            omega
          simp only [Bool.false_eq_true, if_false, remaining, same, last, anew, fewer, Nat.succ_mul]
        · rename_i round
          have spent : w.values.length - w.index - 1 = 0 := by omega
          have all : (w.values.length - 0 - 1).succ = w.values.length := by omega
          simp only [if_true, remaining, same, last, anew, spent, Nat.zero_mul, Nat.zero_add, true_and]
          rw [← Nat.succ_mul, all]
          rfl

theorem take_exhausted (n : Nat) (wheels : List Wheel) : Odometer.take n ⟨wheels, true⟩ = [] := by
  cases n <;> rfl

theorem take_length (n : Nat) (o : Odometer) (showing : Showing o.wheels)
    (goesOn : o.exhausted = false) : (o.take n).length = min n (remaining o.wheels) := by
  induction n generalizing o with
  | zero => simp [Odometer.take]
  | succ n ih =>
      have counts := advance_remaining showing
      have next : o.next? =
          some (shown o.wheels, ⟨(advance o.wheels).1, (advance o.wheels).2⟩) := by
        simp only [Odometer.next?, goesOn, Bool.false_eq_true, if_false]
      simp only [Odometer.take, next, List.length_cons]
      cases round : (advance o.wheels).2 with
      | true =>
          rw [round, if_pos rfl] at counts
          rw [take_exhausted, counts.1, List.length_nil]
          omega
      | false =>
          rw [round, if_neg Bool.false_ne_true] at counts
          rw [ih ⟨(advance o.wheels).1, false⟩ (advance_showing showing) rfl]
          dsimp only
          omega

def fresh (parameters : Dict (List String)) : List Wheel :=
  parameters.toList.map fun e => ⟨e.1, e.2, 0⟩

theorem fresh_first (parameters : Dict (List String)) : ∀ w ∈ fresh parameters, w.index = 0 := by
  intro w member
  obtain ⟨e, -, rfl⟩ := List.mem_map.mp member
  rfl

theorem start_ok {parameters : Dict (List String)} {o : Odometer}
    (ok : Odometer.start parameters = .ok o) :
    o = ⟨fresh parameters, parameters.isEmpty⟩ ∧ Showing (fresh parameters) := by
  rw [Odometer.start] at ok
  split at ok
  · cases ok
  · rename_i filled
    cases ok
    refine ⟨rfl, fun w member => ?_⟩
    obtain ⟨e, there, rfl⟩ := List.mem_map.mp member
    rw [Benchmark.emptyVariable?, Option.map_eq_none_iff, List.find?_eq_none] at filled
    cases values : e.2 with
    | nil => exact absurd (by simp [values]) (filled e there)
    | cons => simp

theorem fresh_remaining {wheels : List Wheel} (showing : Showing wheels)
    (zeroes : ∀ w ∈ wheels, w.index = 0) : remaining wheels = volume wheels := by
  induction wheels with
  | nil => rfl
  | cons w rest ih =>
      have behind := ih (fun v member => showing v (List.mem_cons_of_mem w member))
        fun v member => zeroes v (List.mem_cons_of_mem w member)
      have below := showing w List.mem_cons_self
      have zero := zeroes w List.mem_cons_self
      have all : (w.values.length - w.index - 1).succ = w.values.length := by omega
      rw [remaining, behind, ← Nat.succ_mul, all]
      rfl

theorem volume_positive {wheels : List Wheel} (showing : Showing wheels) : 0 < volume wheels := by
  induction wheels with
  | nil => exact Nat.one_pos
  | cons w rest ih =>
      have below := showing w List.mem_cons_self
      exact Nat.mul_pos (Nat.lt_of_le_of_lt (Nat.zero_le _) below)
        (ih fun v member => showing v (List.mem_cons_of_mem w member))

theorem fresh_volume (parameters : Dict (List String)) :
    volume (fresh parameters) = (parameters.values.map List.length).prod := by
  simp [volume, fresh, Dict.values, Function.comp_def]

theorem fresh_dials (parameters : Dict (List String)) :
    dials (fresh parameters) = parameters.toList := by
  simp [dials, fresh, Function.comp_def]

theorem expand_ok {parameters : Dict (List String)} {all : List Attributes}
    (ok : expand parameters = .ok all) :
    ∃ o, Odometer.start parameters = .ok o ∧ o = ⟨fresh parameters, parameters.isEmpty⟩ ∧
      Showing (fresh parameters) ∧ all = o.take o.count := by
  cases started : Odometer.start parameters with
  | error cause =>
      rw [expand, started] at ok
      cases ok
  | ok o =>
      obtain ⟨same, showing⟩ := start_ok started
      rw [expand, started] at ok
      cases ok
      exact ⟨o, rfl, same, showing, rfl⟩

theorem values_multiply {parameters : Dict (List String)} {all : List Attributes}
    (ok : expand parameters = .ok all) : 0 < (parameters.values.map List.length).prod := by
  obtain ⟨o, -, -, showing, -⟩ := expand_ok ok
  exact fresh_volume parameters ▸ volume_positive showing

theorem expand_length {parameters : Dict (List String)} {all : List Attributes}
    (ok : expand parameters = .ok all) :
    all.length = if parameters.isEmpty then 0 else (parameters.values.map List.length).prod := by
  obtain ⟨o, -, rfl, showing, rfl⟩ := expand_ok ok
  cases empty : parameters.isEmpty with
  | true => simp [take_exhausted]
  | false =>
      have filled : (fresh parameters).isEmpty = false := by
        rw [fresh, List.isEmpty_map]
        exact empty
      have whole : (Odometer.mk (fresh parameters) false).count = volume (fresh parameters) := by
        simp only [Odometer.count, filled, Bool.false_eq_true, if_false, volume]
        exact List.prod_eq_foldl.symm
      rw [take_length _ _ showing rfl, whole, fresh_remaining showing (fresh_first parameters),
        Nat.min_self, fresh_volume]
      rfl

theorem expand_empty {parameters : Dict (List String)} {all : List Attributes}
    (ok : expand parameters = .ok all) : all.isEmpty = parameters.isEmpty := by
  have length := expand_length ok
  have positive := values_multiply ok
  cases empty : parameters.isEmpty with
  | true =>
      rw [empty, if_pos rfl] at length
      rw [List.eq_nil_of_length_eq_zero length]
      rfl
  | false =>
      rw [empty, if_neg Bool.false_ne_true] at length
      rw [← length] at positive
      exact List.isEmpty_eq_false_iff.mpr (List.ne_nil_of_length_pos positive)

end SqlBench.Variables
