import Mathlib.Data.List.Sort
import SqlBench.Dict

set_option autoImplicit false

namespace SqlBench.Dict

variable {α : Type}

theorem find_entry {entries : List (String × α)} (ascending : Ascending entries) {e : String × α}
    (member : e ∈ entries) : (entries.find? fun other => other.1 == e.1) = some e := by
  induction entries with
  | nil => cases member
  | cons head rest ih =>
      obtain ⟨above, behind⟩ := List.pairwise_cons.mp ascending
      rcases List.mem_cons.mp member with rfl | member
      · exact List.find?_cons_of_pos (beq_self_eq_true e.1)
      · have different := String.ne_of_lt (above e member)
        rw [List.find?_cons_of_neg (by simpa using different), ih behind member]

theorem get_some_iff {d : Dict α} {key : String} {value : α} :
    d.get? key = some value ↔ (key, value) ∈ d.toList := by
  refine ⟨fun found => ?_, fun member => ?_⟩
  · obtain ⟨e, there, rfl⟩ := Option.map_eq_some_iff.mp found
    have same : e.1 = key := by simpa using List.find?_some there
    exact same ▸ List.mem_of_find?_eq_some there
  · rw [get?, find_entry d.ascending member]
    rfl

theorem get_map {β : Type} (f : α → β) (d : Dict α) (key : String) :
    (d.map f).get? key = (d.get? key).map f := by
  rw [get?, get?, map, List.find?_map, Option.map_map, Option.map_map]
  rfl

theorem ascending_unique {entries others : List (String × α)} (ascending : Ascending entries)
    (ordered : Ascending others) (same : ∀ e, e ∈ entries ↔ e ∈ others) : entries = others := by
  have irrefl : Std.Irrefl fun a b : String × α => a.1 < b.1 := ⟨fun a => String.lt_irrefl a.1⟩
  have antisymm : Std.Antisymm fun a b : String × α => a.1 < b.1 :=
    ⟨fun a b less more => absurd more (String.lt_asymm less)⟩
  exact ascending.eq_of_mem_iff ordered same

theorem get_insert_entry (key other : String) (value : α) (entries : List (String × α)) :
    ((insertEntry key value entries).find? fun e => e.1 == other).map (fun e => e.2) =
      if other = key then some value
      else (entries.find? fun e => e.1 == other).map fun e => e.2 := by
  induction entries with
  | nil =>
      by_cases same : other = key
      · simp [insertEntry, same]
      · simp [insertEntry, same, Ne.symm same]
  | cons head rest ih =>
      obtain ⟨k, v⟩ := head
      rw [insertEntry]
      split
      · by_cases same : other = key
        · simp [same]
        · rw [List.find?_cons_of_neg (by simpa using Ne.symm same), if_neg same]
      · split
        · rename_i equal
          by_cases same : other = key
          · simp [same]
          · rw [List.find?_cons_of_neg (by simpa using Ne.symm same), if_neg same,
              List.find?_cons_of_neg (by simpa [← equal] using Ne.symm same)]
        · rename_i different
          by_cases here : k = other
          · have apart : other ≠ key := fun same => different (here.trans same).symm
            simp [here, apart]
          · rw [List.find?_cons_of_neg (by simpa using here), ih,
              List.find?_cons_of_neg (by simpa using here)]

theorem get_insert (d : Dict α) (key other : String) (value : α) :
    (d.insert key value).get? other = if other = key then some value else d.get? other :=
  get_insert_entry key other value d.toList

theorem get_insert_many {entries : List (String × α)} (ascending : Ascending entries) (d : Dict α)
    (key : String) :
    (d.insertMany entries).get? key =
      ((entries.find? fun e => e.1 == key).map fun e => e.2).or (d.get? key) := by
  induction entries generalizing d with
  | nil => rfl
  | cons head rest ih =>
      obtain ⟨above, behind⟩ := List.pairwise_cons.mp ascending
      change ((d.insert head.1 head.2).insertMany rest).get? key = _
      rw [ih behind, get_insert]
      by_cases same : key = head.1
      · have absent : (rest.find? fun e => e.1 == key) = none := by
          rw [List.find?_eq_none]
          intro e member equal
          exact String.ne_of_lt (above e member) (same.symm.trans (beq_iff_eq.mp equal).symm)
        rw [absent, if_pos same, List.find?_cons_of_pos (by simpa using same.symm)]
        rfl
      · rw [if_neg same, List.find?_cons_of_neg (by simpa using Ne.symm same)]

theorem get_override (d other : Dict α) (key : String) :
    (d.overrideWith other).get? key = (other.get? key).or (d.get? key) :=
  get_insert_many other.ascending d key

theorem insert_entry_above {key : String} {value : α} {entries : List (String × α)}
    (above : ∀ e ∈ entries, e.1 < key) : insertEntry key value entries = entries ++ [(key, value)] := by
  induction entries with
  | nil => rfl
  | cons head rest ih =>
      have less := above head List.mem_cons_self
      have behind := ih fun e member => above e (List.mem_cons_of_mem head member)
      rw [insertEntry, if_neg (String.lt_asymm less), if_neg (String.ne_of_lt less).symm, behind,
        List.cons_append]

theorem insert_many_above {entries : List (String × α)} {d : Dict α}
    (ascending : Ascending (d.toList ++ entries)) :
    (d.insertMany entries).toList = d.toList ++ entries := by
  induction entries generalizing d with
  | nil => exact (List.append_nil _).symm
  | cons head rest ih =>
      have above : ∀ e ∈ d.toList, e.1 < head.1 := fun e member =>
        (List.pairwise_append.mp ascending).2.2 e member head List.mem_cons_self
      have inserted : (d.insert head.1 head.2).toList = d.toList ++ [head] := insert_entry_above above
      have onward : Ascending ((d.insert head.1 head.2).toList ++ rest) := by
        rw [inserted, List.append_assoc]
        exact ascending
      change ((d.insert head.1 head.2).insertMany rest).toList = _
      rw [ih onward, inserted, List.append_assoc]
      rfl

theorem of_list_ascending {entries : List (String × α)} (ascending : Ascending entries) :
    (ofList entries).toList = entries :=
  insert_many_above ascending

end SqlBench.Dict
