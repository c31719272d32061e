import SqlBench.Plan
import SqlBench.Proofs.Text

set_option autoImplicit false

namespace SqlBench

open Text

-- What a statement looks like.
structure Statement (s : String) : Prop where
  filled : s ≠ ""
  whole : ';' ∉ s.toList
  bare : Bare s.toList

-- A text made up of some without semicolons, with a semicolon between each two.
structure Parted (text : String) (parts : List String) : Prop where
  filled : parts ≠ []
  whole : ∀ p ∈ parts, ';' ∉ p.toList
  joined : text = ";".intercalate parts

def IsBlank (p : String) : Prop :=
  allBlank p.toList = true

instance (p : String) : Decidable (IsBlank p) :=
  inferInstanceAs (Decidable (_ = true))

structure OneFilled (parts before : List String) (part : String) (behind : List String) : Prop where
  place : parts = before ++ part :: behind
  filled : ¬ IsBlank part
  others : ∀ p ∈ before ++ behind, IsBlank p

theorem statement_itself {s : String} (statement : Statement s) : filled? s = some s := by
  have same := trim_bare statement.bare
  have filled : ¬ IsBlank s := by
    intro blank
    rw [trim_empty_iff.mpr blank] at same
    exact statement.filled (String.toList_eq_nil_iff.mp same.symm)
  rw [part_filled filled, trimmed, same, String.ofList_toList]

theorem split_parts (sql : String) :
    splitStatements sql = (split ';' sql).filterMap filled? :=
  filled_parts ';' sql

theorem split_append (a b : String) :
    splitStatements (a ++ ";" ++ b) = splitStatements a ++ splitStatements b := by
  have cut : (a ++ ";" ++ b).toList = a.toList ++ ';' :: b.toList := by
    rw [String.toList_append, String.toList_append, List.append_assoc]
    rfl
  rw [split_parts, split, cut, pieces_append, List.map_append, List.filterMap_append, ← split,
    ← split, ← split_parts, ← split_parts]

theorem parted_split (text : String) : Parted text (split ';' text) where
  filled := mt List.map_eq_nil_iff.mp (pieces_some ';' text.toList)
  whole p member := split_free member
  joined := by
    have lists : (split ';' text).map String.toList = pieces ';' text.toList := by
      rw [split, List.map_map]
      exact (List.map_congr_left fun s _ => String.toList_ofList).trans (List.map_id _)
    rw [← String.toList_inj, String.toList_intercalate, lists]
    exact (pieces_joined ';' text.toList).symm

theorem split_statement {sql s : String} (member : s ∈ splitStatements sql) : Statement s := by
  rw [split_parts] at member
  obtain ⟨p, there, made⟩ := List.mem_filterMap.mp member
  obtain ⟨filled, whole, bare⟩ := part_left (split_free there) made
  exact ⟨filled, whole, bare⟩

theorem split_parted {text : String} {parts : List String} (parted : Parted text parts) :
    split ';' text = parts := by
  rw [parted.joined]
  exact split_parts_joined parted.whole parted.filled

theorem split_joined {statements : List String} (all : ∀ s ∈ statements, Statement s) :
    splitStatements (";".intercalate statements) = statements := by
  by_cases empty : statements = []
  · subst empty
    rfl
  · have parted : Parted (";".intercalate statements) statements :=
      ⟨empty, fun s member => (all s member).whole, rfl⟩
    rw [split_parts, split_parted parted,
      List.filterMap_congr fun s member => statement_itself (all s member), List.filterMap_some]

theorem no_statement_iff {parts : List String} :
    parts.filterMap filled? = [] ↔ ∀ p ∈ parts, IsBlank p := by
  rw [List.filterMap_eq_nil_iff]
  refine forall₂_congr fun p _ => ⟨fun nothing => ?_, part_blank⟩
  by_contra filled
  rw [part_filled filled] at nothing
  cases nothing

theorem one_statement_iff {parts : List String} {s : String} :
    parts.filterMap filled? = [s] ↔
      ∃ before part behind, OneFilled parts before part behind ∧ s = trimmed part := by
  constructor
  · intro one
    obtain ⟨before, part, behind, rfl, nothing, made, rest⟩ := List.filterMap_eq_cons_iff.mp one
    obtain ⟨filled, rfl⟩ := part_made made
    have front : ∀ p ∈ before, IsBlank p := no_statement_iff.mp (List.filterMap_eq_nil_iff.mpr nothing)
    exact ⟨before, part, behind,
      ⟨rfl, filled, List.forall_mem_append.mpr ⟨front, no_statement_iff.mp rest⟩⟩, rfl⟩
  · rintro ⟨before, part, behind, one, rfl⟩
    obtain ⟨front, back⟩ := List.forall_mem_append.mp one.others
    rw [one.place, List.filterMap_append, List.filterMap_cons, part_filled one.filled,
      no_statement_iff.mpr front, no_statement_iff.mpr back]
    rfl

theorem single_statement_iff {environment : Template.Environment} {f : QueryFile} {seen : Attributes}
    {s : String} :
    Plan.singleStatement environment f seen = .ok s ↔
      ∃ text, Template.render ⟨environment, false⟩ f.body seen = .ok text ∧
        splitStatements text = [s] := by
  rw [Plan.singleStatement, QueryFile.statements]
  cases rendered : Template.render ⟨environment, false⟩ f.body seen with
  | error causes => simp
  | ok text =>
      rcases made : splitStatements text with _ | ⟨first, _ | ⟨second, more⟩⟩ <;> simp [made]

/-- Splitting is a homomorphism onto clean statements, which rejoin, and a single statement is a text of
which one part alone is filled. -/
theorem splitting_characterised :
    (∀ a b, splitStatements (a ++ ";" ++ b) = splitStatements a ++ splitStatements b) ∧
    (∀ text, ∀ s ∈ splitStatements text, Statement s) ∧
    (∀ statements, (∀ s ∈ statements, Statement s) →
      splitStatements (";".intercalate statements) = statements) ∧
    (∀ text, ∃! parts, Parted text parts) ∧
    ∀ environment (f : QueryFile) seen s, Plan.singleStatement environment f seen = .ok s ↔
      ∃ text parts before part behind,
        Template.render ⟨environment, false⟩ f.body seen = .ok text ∧ Parted text parts ∧
        OneFilled parts before part behind ∧ s = trimmed part := by
  refine ⟨split_append, fun _ _ => split_statement, fun _ => split_joined, fun text => ?_,
    fun environment f seen s => ?_⟩
  · exact ⟨split ';' text, parted_split text, fun parts parted => (split_parted parted).symm⟩
  · rw [single_statement_iff]
    constructor
    · rintro ⟨text, rendered, one⟩
      rw [split_parts] at one
      obtain ⟨before, part, behind, filled, same⟩ := one_statement_iff.mp one
      exact ⟨text, _, before, part, behind, rendered, parted_split text, filled, same⟩
    · rintro ⟨text, parts, before, part, behind, rendered, parted, filled, same⟩
      refine ⟨text, rendered, ?_⟩
      rw [split_parts, split_parted parted]
      exact one_statement_iff.mpr ⟨before, part, behind, filled, same⟩

def sparse : QueryFile :=
  ⟨"sparse.sql", Dict.empty, "; \n;SELECT {{ n }} ;\t"⟩

theorem statements_rejoined :
    (∀ s ∈ ["SELECT 1", "SELECT 'x'"], Statement s) ∧
      splitStatements "SELECT 1;SELECT 'x'" = ["SELECT 1", "SELECT 'x'"] ∧
      Plan.singleStatement Dict.empty sparse (Dict.ofList [("n", "5")]) = .ok "SELECT 5" := by
  obtain ⟨-, -, joined, -, single⟩ := splitting_characterised
  have all : ∀ s ∈ ["SELECT 1", "SELECT 'x'"], Statement s := by
    intro s member
    rcases List.mem_pair.mp member with rfl | rfl
    · exact ⟨by decide, by decide, bare_of_trim (by decide)⟩
    · exact ⟨by decide, by decide, bare_of_trim (by decide)⟩
  have renders : (Template.render ⟨Dict.empty, false⟩ sparse.body
      (Dict.ofList [("n", "5")])).toOption = some "; \n;SELECT 5 ;\t" := by
    decide +kernel
  refine ⟨all, joined _ all, (single _ _ _ _).mpr ?_⟩
  refine ⟨"; \n;SELECT 5 ;\t", ["", " \n", "SELECT 5 ", "\t"], ["", " \n"], "SELECT 5 ", ["\t"],
    ?_, ⟨by decide, by decide, by decide⟩, ⟨rfl, by decide, by decide⟩, by decide⟩
  cases rendered : Template.render ⟨Dict.empty, false⟩ sparse.body (Dict.ofList [("n", "5")]) with
  | error causes =>
      rw [rendered] at renders
      cases renders
  | ok text =>
      rw [rendered] at renders
      cases renders
      rfl

end SqlBench
