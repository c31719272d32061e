import Mathlib.Data.List.Forall2
import SqlBench.Descriptor
import SqlBench.Proofs.Admission
import SqlBench.Proofs.Dict
import SqlBench.Proofs.Statistics
import SqlBench.Proofs.Text
import SqlBench.Report

set_option autoImplicit false

namespace SqlBench

open Text

namespace VariableValue

structure Separable (value : String) : Prop where
  filled : value ≠ ""
  whole : ',' ∉ value.toList
  bare : Bare value.toList

def Padded (value part : String) : Prop :=
  ∃ before behind, part = String.ofList (before ++ value.toList ++ behind) ∧
    (∀ c ∈ before, isBlank c = true) ∧ ∀ c ∈ behind, isBlank c = true

theorem of_commas_parts (s : String) : ofCommas s = (split ',' s).filterMap filled? :=
  filled_parts ',' s

theorem of_commas_separable {s value : String} (member : value ∈ ofCommas s) : Separable value := by
  rw [of_commas_parts] at member
  obtain ⟨p, there, made⟩ := List.mem_filterMap.mp member
  obtain ⟨filled, whole, bare⟩ := part_left (split_free there) made
  exact ⟨filled, whole, bare⟩

theorem padded_whole {value part : String} (separable : Separable value) (padded : Padded value part) :
    ',' ∉ part.toList := by
  obtain ⟨before, behind, rfl, front, back⟩ := padded
  rw [String.toList_ofList, List.mem_append, List.mem_append]
  rintro ((member | member) | member)
  · exact absurd (front ',' member) (by decide)
  · exact separable.whole member
  · exact absurd (back ',' member) (by decide)

theorem padded_left {value part : String} (separable : Separable value) (padded : Padded value part) :
    filled? part = some value := by
  obtain ⟨before, behind, rfl, front, back⟩ := padded
  rw [part_between front back separable.bare (mt String.toList_eq_nil_iff.mp separable.filled),
    String.ofList_toList]

theorem of_commas_joined {values parts : List String} (all : ∀ value ∈ values, Separable value)
    (padded : List.Forall₂ Padded values parts) : ofCommas (",".intercalate parts) = values := by
  have both : (∀ p ∈ parts, ',' ∉ p.toList) ∧ parts.filterMap filled? = values := by
    induction padded with
    | nil => exact ⟨nofun, rfl⟩
    | cons own rest ih =>
        obtain ⟨sound, others⟩ := List.forall_mem_cons.mp all
        obtain ⟨whole, remains⟩ := ih others
        refine ⟨List.forall_mem_cons.mpr ⟨padded_whole sound own, whole⟩, ?_⟩
        rw [List.filterMap_cons, padded_left sound own, remains]
  by_cases empty : parts = []
  · subst empty
    exact both.2
  · rw [of_commas_parts]
    exact (congrArg (List.filterMap filled?) (split_parts_joined both.1 empty)).trans both.2

theorem padded_self (values : List String) : List.Forall₂ Padded values values :=
  List.forall₂_same.mpr fun value _ => ⟨[], [], by simp, nofun, nofun⟩

theorem of_commas_iff (values : List String) :
    (∃ s, ofCommas s = values) ↔ ∀ value ∈ values, Separable value := by
  constructor
  · rintro ⟨s, rfl⟩ value member
    exact of_commas_separable member
  · exact fun all => ⟨_, of_commas_joined all (padded_self values)⟩

theorem texts_read (values : List String) :
    (VariableValue.list (values.map .text)).values? = some values := by
  rw [values?]
  induction values with
  | nil => rfl
  | cons value rest ih =>
      rw [List.map_cons, List.mapM_cons, ih]
      rfl

end VariableValue

namespace Descriptor

theorem values_read {entry : String × VariableValue} {values : List String} :
    variableValues entry = .ok (entry.1, values) ↔ entry.2.values? = some values := by
  rw [variableValues]
  cases entry.2.values? with
  | none => exact ⟨nofun, nofun⟩
  | some found => simp

theorem values_cases (entries : List (String × VariableValue)) :
    (∃ e ∈ entries, e.2.values? = none ∧
      entries.mapM variableValues = .error (.invalid (.nestedVariable e.1))) ∨
    ∃ parameters, entries.mapM variableValues = .ok parameters ∧
      List.Forall₂ (fun e p => p.1 = e.1 ∧ e.2.values? = some p.2) entries parameters := by
  induction entries with
  | nil => exact .inr ⟨[], rfl, .nil⟩
  | cons e rest ih =>
      rw [List.mapM_cons]
      cases own : e.2.values? with
      | none =>
          have fails : variableValues e = .error (.invalid (.nestedVariable e.1)) := by
            rw [variableValues, own]
          exact .inl ⟨e, List.mem_cons_self, own, by rw [fails]; rfl⟩
      | some values =>
          rw [values_read.mpr own]
          rcases ih with ⟨other, member, nested, fails⟩ | ⟨parameters, ok, all⟩
          · exact .inl ⟨other, List.mem_cons_of_mem e member, nested, by rw [fails]; rfl⟩
          · exact .inr ⟨_, by rw [ok]; rfl, .cons ⟨rfl, own⟩ all⟩

theorem parameters_kept {entries : List (String × VariableValue)}
    {parameters : List (String × List String)} (ascending : Ascending entries)
    (all : List.Forall₂ (fun e p => p.1 = e.1 ∧ e.2.values? = some p.2) entries parameters) :
    (Dict.ofList parameters).toList = parameters := by
  have keys : parameters.map Prod.fst = entries.map Prod.fst := by
    clear ascending
    induction all with
    | nil => rfl
    | cons own _ ih => rw [List.map_cons, List.map_cons, own.1, ih]
  refine Dict.of_list_ascending ?_
  rw [Ascending, ← List.pairwise_map (f := Prod.fst) (R := (· < ·))] at ascending ⊢
  rwa [keys]

theorem parse_decoded {naming : Naming} {x : Expansion} {name content expanded source : String}
    {queries : List String} {d : Descriptor} (expands : x.expand content = .ok expanded)
    (decodes : Yaml.Decode.document decoder expanded = .ok (source, queries, d)) :
    parse naming x name content = (do
      let parameters ← d.parameters.toList.mapM variableValues
      let b := benchmark naming name source queries d parameters
      b.validate
      pure b) := by
  rw [parse, expands]
  dsimp only [bind, Except.bind]
  rw [decodes]
  rfl

-- Nothing is wrong with what is described but that variables may have no values.
structure Runnable (name : String) (queries : List String) (d : Descriptor) : Prop where
  named : name ≠ ""
  concurrent : 1 ≤ d.concurrency
  runs : 1 ≤ d.runs
  queries : queries ≠ []
  scalar : ∀ e ∈ d.parameters.toList, e.2.values? ≠ none

theorem validate_refuses {b : Benchmark} {key : String}
    (empty : Benchmark.emptyVariable? b.parameters = some key) :
    ∃ fault, b.validate = .error (.invalid fault) ∧
      (b.name ≠ "" → 1 ≤ b.concurrency → 1 ≤ b.runs → b.queries ≠ [] →
        fault = .emptyVariable b.name key) := by
  rw [Benchmark.validate]
  split
  · rename_i nameless
    exact ⟨_, rfl, fun named => absurd (String.isEmpty_iff.mp nameless) named⟩
  · split
    · rename_i nothing
      exact ⟨_, rfl, fun _ positive => absurd nothing (Nat.not_lt.mpr positive)⟩
    · split
      · rename_i nothing
        exact ⟨_, rfl, fun _ _ positive => absurd nothing (Nat.not_lt.mpr positive)⟩
      · split
        · rename_i nothing
          exact ⟨_, rfl, fun _ _ _ asked => absurd (List.isEmpty_iff.mp nothing) asked⟩
        · rw [empty]
          exact ⟨_, rfl, fun _ _ _ _ => rfl⟩

theorem empty_found {d : Dict (List String)} {e : String × List String} (member : e ∈ d.toList)
    (bare : e.2 = []) :
    ∃ other ∈ d.toList, other.2 = [] ∧ Benchmark.emptyVariable? d = some other.1 := by
  have found : (d.toList.find? fun e => e.2.isEmpty).isSome = true :=
    List.find?_isSome.mpr ⟨e, member, List.isEmpty_iff.mpr bare⟩
  obtain ⟨other, there⟩ := Option.isSome_iff_exists.mp found
  have nothing : other.2.isEmpty = true := by simpa using List.find?_some there
  exact ⟨other, List.mem_of_find?_eq_some there, List.isEmpty_iff.mp nothing,
    by rw [Benchmark.emptyVariable?, there]; rfl⟩

theorem empty_refused {naming : Naming} {x : Expansion} {name content expanded source : String}
    {queries : List String} {d : Descriptor} (expands : x.expand content = .ok expanded)
    (decodes : Yaml.Decode.document decoder expanded = .ok (source, queries, d))
    {e : String × VariableValue} (member : e ∈ d.parameters.toList)
    (empty : variableValues e = .ok (e.1, [])) :
    ∃ fault, parse naming x name content = .error (.invalid fault) ∧
      (Runnable name queries d → ∃ other ∈ d.parameters.toList,
        variableValues other = .ok (other.1, []) ∧ fault = .emptyVariable name other.1) := by
  rw [parse_decoded expands decodes]
  rcases values_cases d.parameters.toList with ⟨other, there, nested, fails⟩ | ⟨parameters, ok, all⟩
  · rw [fails]
    exact ⟨_, rfl, fun runnable => absurd nested (runnable.scalar other there)⟩
  · have kept : (benchmark naming name source queries d parameters).parameters.toList = parameters :=
      parameters_kept d.parameters.ascending all
    obtain ⟨p, there, key, values⟩ := Statistics.forall_two_left all member
    rw [values_read.mp empty] at values
    obtain ⟨first, found, bare, refuses⟩ :=
      empty_found (kept.symm ▸ there) (Option.some.inj values).symm
    obtain ⟨fault, invalid, alone⟩ := validate_refuses refuses
    obtain ⟨other, listed, same, others⟩ := Statistics.forall_two_left all.flip (kept ▸ found)
    refine ⟨fault, ?_, fun runnable => ⟨other, listed, ?_, ?_⟩⟩
    · rw [ok]
      change ((benchmark naming name source queries d parameters).validate >>= fun _ => pure _) = _
      rw [invalid]
      rfl
    · exact values_read.mpr (others.trans (congrArg some bare))
    · rw [alone runnable.named runnable.concurrent runnable.runs runnable.queries]
      exact congrArg (InvalidReason.emptyVariable name) same

end Descriptor

namespace VariableValue

open Descriptor (variableValues)

theorem told_again {b : Benchmark} {key : String} {values : List String}
    (kept : b.parameters.get? key = some values) (all : ∀ value ∈ values, Separable value) :
    ∃ told, (Report.benchmarkStart b).parameters.get? key = some told ∧
      variableValues (key, .text told) = .ok (key, values) := by
  refine ⟨",".intercalate values, ?_, ?_⟩
  · rw [Report.benchmarkStart, Dict.get_map, kept]
    rfl
  · exact Descriptor.values_read.mpr (congrArg some (of_commas_joined all (padded_self values)))

/-- Both ways to write values give them; a text always gives some, and those that can be given are the
ones that can stand between commas; a variable that gives none is refused; and what is reported for
such values gives them again. -/
theorem values_agree (key : String) :
    (∀ values parts : List String, (∀ value ∈ values, Separable value) →
      List.Forall₂ Padded values parts →
      variableValues (key, .list (values.map .text)) = .ok (key, values) ∧
        variableValues (key, .text (",".intercalate parts)) = .ok (key, values)) ∧
    (∀ s, ∃ values, variableValues (key, .text s) = .ok (key, values)) ∧
    (∀ values, (∃ s, variableValues (key, .text s) = .ok (key, values)) ↔
      ∀ value ∈ values, Separable value) ∧
    (∀ (naming : Descriptor.Naming) (x : Expansion) (name content expanded source : String)
      (queries : List String) (d : Descriptor) (v : VariableValue),
      x.expand content = .ok expanded →
      Yaml.Decode.document Descriptor.decoder expanded = .ok (source, queries, d) →
      (key, v) ∈ d.parameters.toList → variableValues (key, v) = .ok (key, []) →
      ∃ fault, Descriptor.parse naming x name content = .error (.invalid fault) ∧
        (Descriptor.Runnable name queries d → ∃ other ∈ d.parameters.toList,
          variableValues other = .ok (other.1, []) ∧ fault = .emptyVariable name other.1)) ∧
    (∀ (b : Benchmark) (values : List String), b.parameters.get? key = some values →
      (∀ value ∈ values, Separable value) →
      ∃ told, (Report.benchmarkStart b).parameters.get? key = some told ∧
        variableValues (key, .text told) = .ok (key, values)) := by
  refine ⟨fun values parts all padded => ⟨?_, ?_⟩, fun s => ⟨ofCommas s, rfl⟩, fun values => ?_,
    ?_, ?_⟩
  · exact Descriptor.values_read.mpr (texts_read values)
  · exact Descriptor.values_read.mpr (congrArg some (of_commas_joined all padded))
  · have read (s : String) : variableValues (key, .text s) = .ok (key, values) ↔ ofCommas s = values :=
      Descriptor.values_read.trans Option.some_inj
    simp only [read, of_commas_iff]
  · intro _ _ _ _ _ _ _ _ _ expands decodes member empty
    exact Descriptor.empty_refused expands decodes member empty
  · exact fun b values kept all => told_again kept all

def scales : List String := ["1", "10"]

theorem scales_separable : ∀ value ∈ scales, Separable value := by
  intro value member
  rcases List.mem_pair.mp member with rfl | rfl
  · exact ⟨by decide, by decide, by rintro c ⟨⟩; rfl, by rintro c ⟨⟩; rfl⟩
  · exact ⟨by decide, by decide, by rintro c ⟨⟩; rfl, by rintro c ⟨⟩; rfl⟩

theorem scales_padded : List.Forall₂ Padded scales [" 1 ", "\t10"] :=
  .cons ⟨[' '], [' '], rfl, List.all_eq_true.mp rfl, List.all_eq_true.mp rfl⟩
    (.cons ⟨['\t'], [], rfl, List.all_eq_true.mp rfl, nofun⟩ .nil)

def idle : String :=
  "datasource: memory\nquery-names: [q01]\nvariables:\n  scale: ' , '\n"

theorem idle_expanded :
    (⟨Dict.empty, Dict.empty⟩ : Expansion).expand idle = .ok idle := by
  decide +kernel

theorem idle_described : ∃ (source : String) (queries : List String) (d : Descriptor)
    (v : VariableValue),
    Yaml.Decode.document Descriptor.decoder idle = .ok (source, queries, d) ∧
      d.parameters.toList = [("scale", v)] ∧ v.values? = some [] ∧
      Descriptor.Runnable "idle" queries d := by
  have sound : (match Yaml.Decode.document Descriptor.decoder idle with
      | .ok (_, queries, d) => decide (1 ≤ d.concurrency ∧ 1 ≤ d.runs ∧ queries ≠ [] ∧
          d.parameters.toList.map (fun e => (e.1, e.2.values?)) = [("scale", some [])])
      | .error _ => false) = true := by
    decide +kernel
  split at sound
  · rename_i source queries d decodes
    obtain ⟨concurrent, runs, asked, one⟩ := of_decide_eq_true sound
    obtain ⟨⟨key, v⟩, only, same⟩ := List.map_eq_singleton_iff.mp one
    obtain ⟨rfl, nothing⟩ := Prod.mk.inj same
    refine ⟨source, queries, d, v, decodes, only, nothing, by decide, concurrent, runs, asked, ?_⟩
    intro e member
    rw [only] at member
    rw [List.mem_singleton.mp member, nothing]
    exact nofun
  · cases sound

def scaled : Benchmark :=
  Descriptor.benchmark ⟨"lab", "7"⟩ "scaled" "memory" ["q01"] Descriptor.blank [("scale", scales)]

theorem scales_agree :
    variableValues ("scale", .list (scales.map .text)) = .ok ("scale", scales) ∧
    variableValues ("scale", .text " 1 ,\t10") = .ok ("scale", scales) ∧
    (∀ value ∈ scales, Separable value) ∧
    Descriptor.parse ⟨"lab", "7"⟩ ⟨Dict.empty, Dict.empty⟩ "idle" idle =
      .error (.invalid (.emptyVariable "idle" "scale")) ∧
    ∃ told, (Report.benchmarkStart scaled).parameters.get? "scale" = some told ∧
      variableValues ("scale", .text told) = .ok ("scale", scales) := by
  obtain ⟨ways, _, image, refused, told⟩ := values_agree "scale"
  obtain ⟨listed, joined⟩ := ways scales _ scales_separable scales_padded
  obtain ⟨source, queries, d, v, decodes, only, nothing, runnable⟩ := idle_described
  obtain ⟨fault, refuses, sole⟩ := refused ⟨"lab", "7"⟩ ⟨Dict.empty, Dict.empty⟩ "idle" idle idle
    source queries d v idle_expanded decodes (by rw [only]; exact List.mem_singleton_self _)
    (Descriptor.values_read.mpr nothing)
  obtain ⟨other, member, _, rfl⟩ := sole runnable
  rw [only] at member
  rw [List.mem_singleton.mp member] at refuses
  exact ⟨listed, joined, (image scales).mp ⟨_, joined⟩, refuses,
    told scaled scales (by decide +kernel) scales_separable⟩

end VariableValue

end SqlBench
