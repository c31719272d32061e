import Mathlib.Data.List.Forall2
import SqlBench.Proofs.Dict
import SqlBench.Statistics

set_option autoImplicit false

namespace SqlBench.Statistics

def ofName (name : String) (measurements : List Measurement) : List Measurement :=
  measurements.filter fun m => m.name = name

def Conflict (measurements : List Measurement) : Prop :=
  ∃ a ∈ measurements, ∃ b ∈ measurements, a.name = b.name ∧ a.unit ≠ b.unit

instance (measurements : List Measurement) : Decidable (Conflict measurements) :=
  inferInstanceAs (Decidable (∃ a ∈ measurements, ∃ b ∈ measurements, a.name = b.name ∧ a.unit ≠ b.unit))

structure Clash (measurements : List Measurement) (first second : Measurement) : Prop where
  parts : ∃ before after, measurements = before ++ second :: after ∧ ¬ Conflict before ∧ first ∈ before
  name : first.name = second.name
  units : first.unit ≠ second.unit

-- The statistics of each name that occurs are those of its values in their order.
structure Tabulates (measurements : List Measurement) (table : Dict Aggregate) : Prop where
  absent : ∀ name, (∀ m ∈ measurements, m.name ≠ name) → table.get? name = none
  present : ∀ m ∈ measurements, ∃ a,
    aggregate m.unit ((ofName m.name measurements).map Measurement.value) = .ok a ∧
      table.get? m.name = some a

theorem mem_of_name {name : String} {measurements : List Measurement} {m : Measurement} :
    m ∈ ofName name measurements ↔ m ∈ measurements ∧ m.name = name := by
  rw [ofName, List.mem_filter, decide_eq_true_eq]

theorem of_name_append (name : String) (seen : List Measurement) (m : Measurement) :
    ofName name (seen ++ [m]) = ofName name seen ++ if m.name = name then [m] else [] := by
  by_cases same : m.name = name <;> simp [ofName, same]

theorem Clash.conflict {measurements : List Measurement} {first second : Measurement}
    (clash : Clash measurements first second) : Conflict measurements := by
  obtain ⟨⟨before, after, rfl, -, earlier⟩, name, units⟩ := clash
  exact ⟨first, List.mem_append_left _ earlier, second, by simp, name, units⟩

theorem conflict_append {seen : List Measurement} {m : Measurement} (goesWith : ∀ a ∈ seen,
    a.name = m.name → a.unit = m.unit) (conflict : Conflict (seen ++ [m])) : Conflict seen := by
  obtain ⟨a, earlier, b, second, name, units⟩ := conflict
  rcases List.mem_append.mp earlier with before | last
  · rcases List.mem_append.mp second with earlier | new
    · exact ⟨a, before, b, earlier, name, units⟩
    · rw [List.mem_singleton.mp new] at name units
      exact absurd (goesWith a before name) units
  · rw [List.mem_singleton.mp last] at name units
    rcases List.mem_append.mp second with earlier | new
    · exact absurd (goesWith b earlier name.symm).symm units
    · rw [List.mem_singleton.mp new] at units
      exact absurd rfl units

def group? : List Measurement → Option Group
  | [] => none
  | first :: rest => some ⟨first.unit, (first :: rest).map Measurement.value⟩

def Grouped (seen : List Measurement) (groups : Dict Group) : Prop :=
  ∀ name, groups.get? name = group? (ofName name seen)

theorem insert_grouped {seen : List Measurement} {groups : Dict Group} {m : Measurement} {g : Group}
    (grouped : Grouped seen groups) (own : group? (ofName m.name seen ++ [m]) = some g) :
    Grouped (seen ++ [m]) (groups.insert m.name g) := by
  intro name
  rw [Dict.get_insert, of_name_append]
  split
  · rename_i same
    rw [same, if_pos rfl, own]
  · rename_i other
    rw [if_neg (Ne.symm other), List.append_nil]
    exact grouped name

theorem add_to_group_cases {seen : List Measurement} {groups : Dict Group}
    (grouped : Grouped seen groups) (uniform : ¬ Conflict seen) (m : Measurement) :
    (∃ first ∈ seen, first.name = m.name ∧ first.unit ≠ m.unit ∧
      addToGroup groups m = .error (.invalid (.mixedUnits m.name first.unit m.unit))) ∨
    ∃ later, addToGroup groups m = .ok later ∧ Grouped (seen ++ [m]) later ∧
      ¬ Conflict (seen ++ [m]) := by
  have known := grouped m.name
  cases own : ofName m.name seen with
  | nil =>
      rw [own] at known
      refine .inr ⟨_, by rw [addToGroup, known]; rfl, insert_grouped grouped (by rw [own]; rfl), ?_⟩
      refine mt (conflict_append fun a member same => ?_) uniform
      have there : a ∈ ofName m.name seen := mem_of_name.mpr ⟨member, same⟩
      rw [own] at there
      cases there
  | cons first rest =>
      rw [own] at known
      obtain ⟨member, name⟩ := mem_of_name.mp (own ▸ List.mem_cons_self)
      by_cases goesWith : first.unit = m.unit
      · refine .inr ⟨_, ?_, insert_grouped (g := ⟨first.unit, (first :: rest).map Measurement.value ++ [m.value]⟩)
          grouped ?_, mt (conflict_append fun a there same => ?_) uniform⟩
        · rw [addToGroup, known]
          exact if_pos goesWith
        · rw [own]
          simp [group?]
        · by_contra apart
          exact uniform ⟨a, there, first, member, same.trans name.symm, goesWith ▸ apart⟩
      · refine .inl ⟨first, member, name, goesWith, ?_⟩
        rw [addToGroup, known]
        exact if_neg goesWith

-- By induction on what is left: the groups are always those of what was seen.
theorem group_cases {seen : List Measurement} {groups : Dict Group} (grouped : Grouped seen groups)
    (uniform : ¬ Conflict seen) (rest : List Measurement) :
    (∃ first second, Clash (seen ++ rest) first second ∧ rest.foldlM addToGroup groups =
      .error (.invalid (.mixedUnits second.name first.unit second.unit))) ∨
    ∃ later, rest.foldlM addToGroup groups = .ok later ∧ Grouped (seen ++ rest) later ∧
      ¬ Conflict (seen ++ rest) := by
  induction rest generalizing seen groups with
  | nil => exact .inr ⟨groups, rfl, by rwa [List.append_nil], by rwa [List.append_nil]⟩
  | cons m rest ih =>
      rw [List.foldlM_cons]
      rcases add_to_group_cases grouped uniform m with
        ⟨first, member, name, units, fails⟩ | ⟨later, added, groupedStill, uniformStill⟩
      · rw [fails]
        exact .inl ⟨first, m, ⟨⟨seen, rest, rfl, uniform, member⟩, name, units⟩, rfl⟩
      · rw [added]
        have behind := ih groupedStill uniformStill
        rwa [List.append_assoc] at behind

theorem group_by_name_cases (measurements : List Measurement) :
    (∃ first second, Clash measurements first second ∧ groupByName measurements =
      .error (.invalid (.mixedUnits second.name first.unit second.unit))) ∨
    ∃ groups, groupByName measurements = .ok groups ∧ Grouped measurements groups ∧
      ¬ Conflict measurements := by
  have start : Grouped [] Dict.empty := fun _ => rfl
  have uniform : ¬ Conflict [] := by simp [Conflict]
  exact group_cases start uniform measurements

theorem aggregate_some (unit : MeasureUnit) {values : List Float} (nonempty : values ≠ []) :
    ∃ a, aggregate unit values = .ok a := by
  match values, nonempty with
  | [only], _ => exact ⟨_, rfl⟩
  | _ :: _ :: _, _ => exact ⟨_, rfl⟩

theorem add_aggregates {entries : List (String × Group)} (filled : ∀ e ∈ entries, e.2.values ≠ [])
    (done : Dict Aggregate) : ∃ figures : List (String × Aggregate),
      entries.foldlM addAggregate done = .ok (done.insertMany figures) ∧
        List.Forall₂ (fun e f => e.1 = f.1 ∧ aggregate e.2.unit e.2.values = .ok f.2)
          entries figures := by
  induction entries generalizing done with
  | nil => exact ⟨[], rfl, .nil⟩
  | cons e rest ih =>
      obtain ⟨a, computed⟩ := aggregate_some e.2.unit (filled e List.mem_cons_self)
      obtain ⟨figures, behind, each⟩ :=
        ih (fun other member => filled other (List.mem_cons_of_mem e member)) (done.insert e.1 a)
      refine ⟨(e.1, a) :: figures, ?_, .cons ⟨rfl, computed⟩ each⟩
      rw [List.foldlM_cons, addAggregate, computed]
      exact behind

theorem figures_listed {groups : Dict Group} {figures : List (String × Aggregate)}
    (each : List.Forall₂ (fun e f => e.1 = f.1 ∧ aggregate e.2.unit e.2.values = .ok f.2)
      groups.toList figures) : (Dict.ofList figures).toList = figures := by
  refine Dict.of_list_ascending ?_
  have keys : groups.toList.map Prod.fst = figures.map Prod.fst := by
    rw [← List.forall₂_eq_eq_eq, List.forall₂_map_left_iff, List.forall₂_map_right_iff]
    exact each.imp fun _ _ same => same.1
  have ascending : (groups.toList.map Prod.fst).Pairwise (· < ·) := List.pairwise_map.mpr groups.ascending
  rw [keys] at ascending
  exact List.pairwise_map.mp ascending

theorem forall_two_left {α β : Type} {R : α → β → Prop} {left : List α} {right : List β}
    (each : List.Forall₂ R left right) {a : α} (member : a ∈ left) : ∃ b ∈ right, R a b := by
  induction each with
  | nil => cases member
  | cons related _ ih =>
      rcases List.mem_cons.mp member with rfl | later
      · exact ⟨_, List.mem_cons_self, related⟩
      · obtain ⟨b, there, related⟩ := ih later
        exact ⟨b, List.mem_cons_of_mem _ there, related⟩

theorem aggregates_tabulate {measurements : List Measurement} {groups : Dict Group}
    (grouped : Grouped measurements groups) (uniform : ¬ Conflict measurements) :
    ∃ table, groups.toList.foldlM addAggregate Dict.empty = .ok table ∧
      Tabulates measurements table := by
  have filled : ∀ e ∈ groups.toList, e.2.values ≠ [] := by
    intro e member
    have found := (grouped e.1).symm.trans (Dict.get_some_iff.mpr member)
    cases own : ofName e.1 measurements with
    | nil =>
        rw [own] at found
        cases found
    | cons first rest =>
        rw [own] at found
        rw [← Option.some.inj found]
        simp
  obtain ⟨figures, made, each⟩ := add_aggregates filled Dict.empty
  have listed := figures_listed each
  refine ⟨Dict.ofList figures, made, fun name nobody => ?_, fun m member => ?_⟩
  · cases found : (Dict.ofList figures).get? name with
    | none => rfl
    | some a =>
        rw [Dict.get_some_iff, listed] at found
        obtain ⟨⟨key, g⟩, there, same, -⟩ := forall_two_left each.flip found
        obtain rfl : key = name := same
        have known := (grouped key).symm.trans (Dict.get_some_iff.mpr there)
        have absent : ofName key measurements = [] :=
          List.filter_eq_nil_iff.mpr fun m member => by simpa using nobody m member
        rw [absent] at known
        cases known
  · cases own : ofName m.name measurements with
    | nil =>
        have there : m ∈ ofName m.name measurements := mem_of_name.mpr ⟨member, rfl⟩
        rw [own] at there
        cases there
    | cons first rest =>
        obtain ⟨earlier, name⟩ := mem_of_name.mp (own ▸ List.mem_cons_self)
        have unit : m.unit = first.unit := by
          by_contra apart
          exact uniform ⟨m, member, first, earlier, name.symm, apart⟩
        have known := grouped m.name
        rw [own] at known
        obtain ⟨f, there, same, computed⟩ := forall_two_left each (Dict.get_some_iff.mp known)
        have key : m.name = f.1 := same
        refine ⟨f.2, unit ▸ computed, Dict.get_some_iff.mpr ?_⟩
        rw [listed, key]
        exact there

theorem aggregate_by_name_cases (measurements : List Measurement) :
    (∃ first second, Clash measurements first second ∧ aggregateByName measurements =
      .error (.invalid (.mixedUnits second.name first.unit second.unit))) ∨
    ∃ table, aggregateByName measurements = .ok table ∧ Tabulates measurements table ∧
      ¬ Conflict measurements := by
  rcases group_by_name_cases measurements with
    ⟨first, second, clash, fails⟩ | ⟨groups, found, grouped, uniform⟩
  · exact .inl ⟨first, second, clash, by rw [aggregateByName, fails]⟩
  · obtain ⟨table, made, tabulates⟩ := aggregates_tabulate grouped uniform
    exact .inr ⟨table, by rw [aggregateByName, found]; exact made, tabulates, uniform⟩

end SqlBench.Statistics
