import Mathlib.Algebra.BigOperators.Group.List.Basic
import SqlBench.Proofs.Dict
import SqlBench.Proofs.Variables

set_option autoImplicit false

namespace SqlBench.Variables

-- The digit at a place of a number. Each place has a radix, and the last one is the least significant.
def digit (radices : List Nat) (place number : Nat) : Nat :=
  number / (radices.drop (place + 1)).prod % radices.getD place 1

theorem digit_shift {radices : List Nat} {place : Nat} (inside : place < radices.length)
    (positive : 0 < radices.prod) (turns number : Nat) :
    digit radices place (turns * radices.prod + number) = digit radices place number := by
  have parts : radices.prod =
      (radices.take place).prod * radices[place] * (radices.drop (place + 1)).prod := by
    rw [Nat.mul_assoc, ← List.prod_cons, ← List.drop_eq_getElem_cons inside,
      List.prod_take_mul_prod_drop]
  have behind : 0 < (radices.drop (place + 1)).prod := by
    rw [parts] at positive
    exact Nat.pos_of_mul_pos_left positive
  have radix : radices.getD place 1 = radices[place] := by simp [inside]
  rw [digit, digit, radix, parts, ← Nat.mul_assoc, ← Nat.mul_assoc, Nat.mul_comm _ (List.prod _),
    Nat.mul_add_div behind, Nat.mul_comm _ radices[place], Nat.mul_add_mod]

def position : List Wheel → Nat
  | [] => 0
  | w :: rest => w.index * volume rest + position rest

theorem position_remaining {wheels : List Wheel} (showing : Showing wheels) :
    position wheels + remaining wheels = volume wheels := by
  induction wheels with
  | nil => rfl
  | cons w rest ih =>
      have below := showing w List.mem_cons_self
      have behind := ih fun v member => showing v (List.mem_cons_of_mem w member)
      have all : w.values.length = w.index + (w.values.length - w.index - 1) + 1 := by omega
      have whole : volume (w :: rest) = w.values.length * volume rest := rfl
      rw [position, remaining, whole]
      generalize w.values.length - w.index - 1 = more at all ⊢
      rw [all, Nat.succ_mul, Nat.add_mul]
      omega

theorem remaining_positive (wheels : List Wheel) : 0 < remaining wheels := by
  induction wheels with
  | nil => exact Nat.one_pos
  | cons w rest ih => exact Nat.lt_of_lt_of_le ih (Nat.le_add_left _ _)

def radices (wheels : List Wheel) : List Nat :=
  wheels.map fun w => w.values.length

theorem index_digit {wheels : List Wheel} (showing : Showing wheels) {place : Nat} {w : Wheel}
    (there : wheels[place]? = some w) : w.index = digit (radices wheels) place (position wheels) := by
  induction wheels generalizing place with
  | nil => cases there
  | cons v rest ih =>
      have inside := showing v List.mem_cons_self
      have others : Showing rest := fun u member => showing u (List.mem_cons_of_mem v member)
      have total := position_remaining others
      have more := remaining_positive rest
      cases place with
      | zero =>
          cases there
          change w.index = (w.index * volume rest + position rest) / volume rest % w.values.length
          rw [Nat.mul_comm, Nat.mul_add_div (by omega), Nat.div_eq_of_lt (by omega), Nat.add_zero,
            Nat.mod_eq_of_lt inside]
      | succ place =>
          have behind : rest[place]? = some w := there
          have inside : place < (radices rest).length := by
            rw [radices, List.length_map]
            exact (List.getElem?_eq_some_iff.mp behind).1
          rw [ih others behind]
          exact (digit_shift inside (volume_positive others) v.index (position rest)).symm

theorem radices_dials {wheels : List Wheel} {parameters : Dict (List String)}
    (same : dials wheels = parameters.toList) :
    radices wheels = parameters.values.map List.length := by
  rw [Dict.values, ← same, dials, List.map_map, List.map_map]
  rfl

theorem shown_entries {wheels : List Wheel} {parameters : Dict (List String)}
    (same : dials wheels = parameters.toList) :
    (shown wheels).toList = wheels.map fun w => (w.key, w.values.getD w.index "") := by
  apply Dict.of_list_ascending
  have ordered := parameters.ascending
  rw [← same, dials, Ascending, List.pairwise_map] at ordered
  rw [Ascending, List.pairwise_map]
  exact ordered

structure Combines (parameters : Dict (List String)) (number : Nat) (combination : Attributes) :
    Prop where
  keys : combination.keys = parameters.keys
  values : ∀ place key values, parameters.toList[place]? = some (key, values) →
    digit (parameters.values.map List.length) place number < values.length ∧
      combination.get? key =
        values[digit (parameters.values.map List.length) place number]?

theorem shown_combines {wheels : List Wheel} {parameters : Dict (List String)}
    (same : dials wheels = parameters.toList) (showing : Showing wheels) :
    Combines parameters (position wheels) (shown wheels) where
  keys := by
    rw [Dict.keys, Dict.keys, shown_entries same, ← same, dials, List.map_map, List.map_map]
    rfl
  values place key values there := by
    rw [← same, dials, List.getElem?_map, Option.map_eq_some_iff] at there
    obtain ⟨w, found, named⟩ := there
    cases named
    have inside := showing w (List.mem_of_getElem? found)
    have entry : (w.key, w.values.getD w.index "") ∈ (shown wheels).toList := by
      rw [shown_entries same]
      exact List.mem_map.mpr ⟨w, List.mem_of_getElem? found, rfl⟩
    rw [← radices_dials same, ← index_digit showing found]
    refine ⟨inside, ?_⟩
    rw [Dict.get_some_iff.mpr entry, List.getD_eq_getElem?_getD, List.getElem?_eq_getElem inside]
    rfl

def total (parameters : Dict (List String)) : Nat :=
  if parameters.isEmpty then 0 else (parameters.values.map List.length).prod

structure Turned (parameters : Dict (List String)) (turns : Nat) (o : Odometer) : Prop where
  dials : dials o.wheels = parameters.toList
  showing : Showing o.wheels
  ended : total parameters ≤ turns → o.exhausted = true
  shows : turns < total parameters → o.exhausted = false ∧ position o.wheels = turns

section Turning

variable {parameters : Dict (List String)} {turns : Nat} {o : Odometer}

theorem start_turned (ok : Odometer.start parameters = .ok o) : Turned parameters 0 o := by
  obtain ⟨rfl, showing⟩ := start_ok ok
  have zero : position (fresh parameters) = 0 := by
    have whole := position_remaining showing
    rw [fresh_remaining showing (fresh_first parameters)] at whole
    omega
  refine ⟨fresh_dials parameters, showing, fun ended => ?_, fun running => ⟨?_, zero⟩⟩
  · cases empty : parameters.isEmpty with
    | true => rfl
    | false =>
        have positive := volume_positive showing
        rw [fresh_volume] at positive
        rw [total, empty, if_neg Bool.false_ne_true] at ended
        omega
  · cases empty : parameters.isEmpty with
    | true => simp [total, empty] at running
    | false => rfl

theorem turned_next (turned : Turned parameters turns o) (more : turns < total parameters) :
    o.next? = some (shown o.wheels, ⟨(advance o.wheels).1, (advance o.wheels).2⟩) ∧
      Turned parameters (turns + 1) ⟨(advance o.wheels).1, (advance o.wheels).2⟩ := by
  obtain ⟨goesOn, place⟩ := turned.shows more
  have counts := advance_remaining turned.showing
  have whole := position_remaining turned.showing
  have onward := position_remaining (advance_showing turned.showing)
  have size : volume o.wheels = total parameters := by
    have filled : parameters.isEmpty = false := by
      rw [← Bool.not_eq_true]
      intro bare
      simp [total, bare] at more
    rw [total, filled, if_neg Bool.false_ne_true, ← radices_dials turned.dials]
    rfl
  rw [advance_volume] at onward
  refine ⟨by simp [Odometer.next?, goesOn], (advance_dials o.wheels).trans turned.dials,
    advance_showing turned.showing, fun last => ?_, fun behind => ?_⟩
  · -- A turn that is not the last one leaves at least one combination.
    cases round : (advance o.wheels).2 with
    | true => rfl
    | false =>
        rw [round, if_neg Bool.false_ne_true] at counts
        have remains := remaining_positive (advance o.wheels).1
        omega
  · cases round : (advance o.wheels).2 with
    | true =>
        rw [round, if_pos rfl] at counts
        omega
    | false =>
        rw [round, if_neg Bool.false_ne_true] at counts
        have shows : position (advance o.wheels).1 = turns + 1 := by omega
        exact ⟨rfl, shows⟩

theorem turned_ended (turned : Turned parameters turns o) (last : total parameters ≤ turns) :
    o.next? = none := by
  simp [Odometer.next?, turned.ended last]

theorem turned_drop (turned : Turned parameters turns o) (n : Nat) :
    Turned parameters (turns + n) (o.drop n) := by
  induction n generalizing turns o with
  | zero => exact turned
  | succ n ih =>
      by_cases more : turns < total parameters
      · obtain ⟨next, onward⟩ := turned_next turned more
        rw [Odometer.drop, next, Nat.add_comm n 1, ← Nat.add_assoc]
        exact ih onward
      · have last := turned_ended turned (Nat.le_of_not_lt more)
        rw [Odometer.drop, last]
        exact ⟨turned.dials, turned.showing,
          fun _ => turned.ended (Nat.le_of_not_lt more), fun less => by omega⟩

theorem turned_take (turned : Turned parameters turns o) (n k : Nat) :
    (o.take n)[k]? =
      if k < n ∧ turns + k < total parameters then some (shown (o.drop k).wheels) else none := by
  induction n generalizing turns o k with
  | zero => simp [Odometer.take]
  | succ n ih =>
      by_cases more : turns < total parameters
      · obtain ⟨next, onward⟩ := turned_next turned more
        rw [Odometer.take, next]
        cases k with
        | zero => simp [more, Odometer.drop]
        | succ k =>
            rw [Odometer.drop, next, List.getElem?_cons_succ, ih onward]
            simp only [Nat.succ_lt_succ_iff, Nat.add_assoc, Nat.add_comm 1 k]
      · have last := turned_ended turned (Nat.le_of_not_lt more)
        rw [Odometer.take, last, if_neg (by omega)]
        rfl

theorem turned_count (turned : Turned parameters turns o) : o.count = total parameters := by
  have same : o.wheels.isEmpty = parameters.isEmpty := by
    rw [Dict.isEmpty, ← turned.dials, dials, List.isEmpty_map]
  rw [Odometer.count, total, same, ← radices_dials turned.dials, List.prod_eq_foldl]
  rfl

end Turning

structure FirstEmpty (parameters : Dict (List String)) (key : String) : Prop where
  empty : (key, []) ∈ parameters.toList
  first : ∀ other, (other, []) ∈ parameters.toList → key ≤ other

theorem first_empty_iff (parameters : Dict (List String)) (key : String) :
    Benchmark.emptyVariable? parameters = some key ↔ FirstEmpty parameters key := by
  have found_first {found : String} (found? : Benchmark.emptyVariable? parameters = some found) :
      FirstEmpty parameters found := by
    obtain ⟨e, there, rfl⟩ := Option.map_eq_some_iff.mp found?
    obtain ⟨nothing, before, behind, parts, full⟩ := List.find?_eq_some_iff_append.mp there
    have bare : e.2 = [] := List.isEmpty_iff.mp nothing
    refine ⟨bare ▸ List.mem_of_find?_eq_some there, fun other member => ?_⟩
    have ordered := parameters.ascending
    rw [parts] at member ordered
    rcases List.mem_append.mp member with member | member
    · cases full (other, []) member
    · rcases List.mem_cons.mp member with same | member
      · exact same ▸ String.le_refl _
      · have above := (List.pairwise_cons.mp (List.pairwise_append.mp ordered).2.1).1 _ member
        exact String.not_lt.mp (String.lt_asymm above)
  refine ⟨found_first, fun least => ?_⟩
  cases search : Benchmark.emptyVariable? parameters with
  | none =>
      rw [Benchmark.emptyVariable?, Option.map_eq_none_iff, List.find?_eq_none] at search
      exact absurd rfl (search (key, []) least.empty)
  | some found =>
      have other := found_first search
      rw [String.le_antisymm (other.first key least.empty) (least.first found other.empty)]

theorem expand_error_iff (parameters : Dict (List String)) (cause : Failure) :
    expand parameters = .error cause ↔
      ∃ key, FirstEmpty parameters key ∧ cause = .invalid (.variableWithoutValues key) := by
  cases search : Benchmark.emptyVariable? parameters with
  | none =>
      refine ⟨fun failed => ?_, fun ⟨key, least, _⟩ => ?_⟩
      · simp [expand, Odometer.start, search, Except.map] at failed
      · rw [(first_empty_iff parameters key).mpr least] at search
        cases search
  | some found =>
      have failed : expand parameters = .error (.invalid (.variableWithoutValues found)) := by
        simp [expand, Odometer.start, search, Except.map]
      rw [failed]
      refine ⟨fun same => ⟨found, (first_empty_iff parameters found).mp search, by cases same; rfl⟩, ?_⟩
      rintro ⟨key, least, rfl⟩
      rw [(first_empty_iff parameters key).mpr least] at search
      cases search
      rfl

theorem start_of_values {parameters : Dict (List String)}
    (values : ∀ key, (key, []) ∉ parameters.toList) : ∃ o, Odometer.start parameters = .ok o := by
  cases search : Benchmark.emptyVariable? parameters with
  | none => exact ⟨_, by rw [Odometer.start, search]⟩
  | some key => exact absurd ((first_empty_iff parameters key).mp search).empty (values key)

theorem take_prod_le {numbers : List Nat} (positive : 0 < numbers.prod) (n : Nat) :
    (numbers.take n).prod ≤ numbers.prod := by
  have parts := List.prod_take_mul_prod_drop numbers n
  rw [← parts] at positive ⊢
  exact Nat.le_mul_of_pos_right _ (Nat.pos_of_mul_pos_left positive)

/-- What an odometer shows are the combinations, one for each number below the product. It never shows
more, and its count is the same all the way. No product on the way to the count is above it, so a
machine gets there when the count fits. -/
theorem expand_counts (parameters : Dict (List String)) :
    (∀ cause, expand parameters = .error cause ↔
      ∃ key, FirstEmpty parameters key ∧ cause = .invalid (.variableWithoutValues key)) ∧
    expand Dict.empty = .ok [] ∧
    ((∀ key, (key, []) ∉ parameters.toList) →
      ∃ o all, Odometer.start parameters = .ok o ∧ expand parameters = .ok all ∧
        (parameters ≠ Dict.empty → all.length = (parameters.values.map List.length).prod) ∧
        (∀ k combination, all[k]? = some combination → Combines parameters k combination) ∧
        ∀ n, o.take n = all.take n ∧ ((o.drop n).next? = none ↔ all.length ≤ n) ∧
          (o.drop n).count = all.length ∧
          (parameters ≠ Dict.empty → ∀ m, ((radices (o.drop n).wheels).take m).prod ≤ all.length)) := by
  refine ⟨expand_error_iff parameters, rfl, fun values => ?_⟩
  obtain ⟨o, started⟩ := start_of_values values
  have turned := start_turned started
  have expanded : expand parameters = .ok (o.take o.count) := by
    rw [expand, started]
    rfl
  have length : (o.take o.count).length = total parameters := expand_length expanded
  have product (varied : parameters ≠ Dict.empty) :
      total parameters = (parameters.values.map List.length).prod := by
    have more : parameters.isEmpty = false := by
      rw [← Bool.not_eq_true]
      exact fun bare => varied (Dict.ext (List.isEmpty_iff.mp bare))
    rw [total, more, if_neg Bool.false_ne_true]
  refine ⟨o, o.take o.count, started, expanded, fun varied => length.trans (product varied),
    fun k combination there => ?_, fun n => ⟨?_, ?_, ?_, fun varied m => ?_⟩⟩
  · rw [turned_take turned] at there
    split at there
    · rename_i inside
      cases there
      have behind := turned_drop turned k
      rw [Nat.zero_add] at behind
      have place := (behind.shows (by omega)).2
      have combines := shown_combines behind.dials behind.showing
      rwa [place] at combines
    · cases there
  · apply List.ext_getElem?
    intro k
    rw [List.getElem?_take, turned_take turned, turned_take turned, turned_count turned]
    split <;> split <;> simp_all
  · have behind := turned_drop turned n
    rw [Nat.zero_add] at behind
    rw [length]
    refine ⟨fun ended => Nat.le_of_not_lt fun less => ?_, turned_ended behind⟩
    rw [(turned_next behind less).1] at ended
    cases ended
  · rw [length, turned_count (turned_drop turned n)]
  · rw [radices_dials (turned_drop turned n).dials, length, product varied]
    exact take_prod_le (values_multiply expanded) m

theorem two_keys_counted :
    (∀ key, (key, []) ∉ (Dict.ofList [("b", ["x", "y", "z"]), ("a", ["1", "2"])]).toList) ∧
      ∃ all, expand (Dict.ofList [("b", ["x", "y", "z"]), ("a", ["1", "2"])]) = .ok all ∧
        all.length = 6 ∧
        ∀ fifth, all[4]? = some fifth → fifth.get? "a" = some "2" ∧ fifth.get? "b" = some "y" := by
  have values : ∀ key,
      (key, []) ∉ (Dict.ofList [("b", ["x", "y", "z"]), ("a", ["1", "2"])]).toList := by
    intro key member
    change (key, []) ∈ [("a", ["1", "2"]), ("b", ["x", "y", "z"])] at member
    simp at member
  obtain ⟨-, -, counts⟩ := expand_counts (Dict.ofList [("b", ["x", "y", "z"]), ("a", ["1", "2"])])
  obtain ⟨o, all, -, expanded, length, combines, -⟩ := counts values
  refine ⟨values, all, expanded, length (by decide), fun fifth there => ?_⟩
  have combined := (combines 4 fifth there).values
  exact ⟨(combined 0 "a" ["1", "2"] rfl).2, (combined 1 "b" ["x", "y", "z"] rfl).2⟩

end SqlBench.Variables
