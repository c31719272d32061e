import Mathlib.Data.List.Forall2
import SqlBench.Proofs.Course

set_option autoImplicit false

namespace SqlBench

variable {σ : Type}

namespace Collector

def refusal? : Requirement × Finding → Option Halt
  | (_, .ok _) => none
  | (_, .error (.crashed panic)) => some (.crashed panic)
  | (.required, .error (.failed cause)) => some (.failed cause)
  | (.optional, .error (.failed _)) => none

def told : Requirement × Finding → List Measurement
  | (_, .ok found) => found
  | (_, .error _) => []

theorem heed_eq (requirement : Requirement) (heard : List Measurement) (said : Finding) :
    requirement.heed heard said =
      match refusal? (requirement, said) with
      | some halt => .error halt
      | none => .ok (heard ++ told (requirement, said)) := by
  cases said with
  | ok found => rfl
  | error halt =>
      cases halt with
      | crashed panic => rfl
      | failed cause =>
          cases requirement with
          | required => rfl
          | optional => simp [Requirement.heed, refusal?, told]

def verdict : List (Requirement × Finding) → List Measurement → Finding
  | [], heard => .ok heard
  | (requirement, said) :: rest, heard =>
    match requirement.heed heard said with
    | .ok heard => verdict rest heard
    | .error halt => .error halt

theorem verdict_eq (said : List (Requirement × Finding)) (heard : List Measurement) :
    verdict said heard =
      match said.findSome? refusal? with
      | some halt => .error halt
      | none => .ok (heard ++ said.flatMap told) := by
  induction said generalizing heard with
  | nil => simp [verdict]
  | cons x rest ih =>
      obtain ⟨requirement, said⟩ := x
      rw [verdict, heed_eq, List.findSome?_cons, List.flatMap_cons]
      cases refusal? (requirement, said) with
      | some halt => rfl
      | none =>
          dsimp only
          rw [ih, List.append_assoc]

-- The first answer that ends a round, and how.
def FirstRefusal (said : List (Requirement × Finding)) (halt : Halt) : Prop :=
  ∃ before x behind, said = before ++ x :: behind ∧ refusal? x = some halt ∧
    ∀ y ∈ before, refusal? y = none

theorem verdict_error_iff (said : List (Requirement × Finding)) (heard : List Measurement)
    (halt : Halt) : verdict said heard = .error halt ↔ FirstRefusal said halt := by
  have ends : verdict said heard = .error halt ↔ said.findSome? refusal? = some halt := by
    rw [verdict_eq]
    cases said.findSome? refusal? <;> simp
  rw [ends, List.findSome?_eq_some_iff]
  rfl

theorem verdict_ok {said : List (Requirement × Finding)} (heard : List Measurement)
    (fine : ∀ x ∈ said, refusal? x = none) :
    verdict said heard = .ok (heard ++ said.flatMap told) := by
  rw [verdict_eq, List.findSome?_eq_none_iff.mpr fine]

theorem verdict_fails_iff (said : List (Requirement × Finding)) (heard : List Measurement) :
    (∃ halt, verdict said heard = .error halt) ↔ ∃ x ∈ said, ∃ halt, refusal? x = some halt := by
  constructor
  · rintro ⟨halt, fails⟩
    obtain ⟨before, x, behind, parts, refuses, -⟩ := (verdict_error_iff said heard halt).mp fails
    exact ⟨x, parts ▸ List.mem_append_right before List.mem_cons_self, halt, refuses⟩
  · rintro ⟨x, member, halt, refuses⟩
    rw [verdict_eq]
    cases blamed : said.findSome? refusal? with
    | some halt => exact ⟨halt, rfl⟩
    | none =>
        rw [List.findSome?_eq_none_iff.mp blamed x member] at refuses
        cases refuses

theorem refused_iff {said : List (Requirement × Finding)}
    (unbroken : ∀ x ∈ said, ∀ panic, x.2 ≠ .error (.crashed panic)) :
    (∃ x ∈ said, ∃ halt, refusal? x = some halt) ↔
      ∃ cause, (.required, .error (.failed cause)) ∈ said := by
  constructor
  · rintro ⟨⟨requirement, finding⟩, member, halt, refuses⟩
    rcases finding with (⟨cause⟩ | ⟨panic⟩) | found
    · cases requirement with
      | required => exact ⟨cause, member⟩
      | optional => cases refuses
    · exact absurd rfl (unbroken _ member panic)
    · cases refuses
  · rintro ⟨cause, member⟩
    exact ⟨_, member, _, rfl⟩

def answers (subject : Subject) : Collector σ → σ → List (Requirement × Finding)
  | [], _ => []
  | (requirement, provider) :: rest, world =>
    (requirement, (provider subject world).1.finding) :: answers subject rest (provider subject world).2

theorem collect_answers (collector : Collector σ) (subject : Subject) (heard : List Measurement)
    (c : Course σ) : (c.collect subject collector heard).1 = verdict (answers subject collector c.world) heard := by
  induction collector generalizing heard c with
  | nil => rfl
  | cons x rest ih =>
      obtain ⟨requirement, provider⟩ := x
      rw [Course.collect, answers, verdict]
      dsimp only
      cases requirement.heed heard (provider subject c.world).1.finding with
      | error halt => rfl
      | ok heard => exact ih heard _

theorem drop_next {α : Type} {l rest : List α} {x : α} {n : Nat} (behind : l.drop n = x :: rest) :
    n < l.length ∧ l.drop (n + 1) = rest := by
  constructor
  · refine Nat.lt_of_not_le fun past => ?_
    rw [List.drop_eq_nil_of_le past] at behind
    cases behind
  · rw [← List.tail_drop, behind, List.tail_cons]

theorem ask_waits {subject : Subject} {rest : Collector σ} {asked : Nat} {heard : List Measurement}
    {world : σ} {delay : Span} {found : Finding} {later : Nat}
    (waits : (ask subject rest asked heard world).1 = .waiting delay found later) :
    0 < delay ∧ asked < later ∧ later ≤ asked + rest.length := by
  induction rest generalizing asked heard world with
  | nil => cases waits
  | cons x rest ih =>
      rw [ask] at waits
      dsimp only at waits
      split at waits
      · cases heeds : x.1.heed heard (x.2 subject world).1.finding with
        | error halt =>
            rw [heeds] at waits
            cases waits
        | ok found =>
            rw [heeds] at waits
            obtain ⟨takes, further, within⟩ := ih waits
            rw [List.length_cons]
            exact ⟨takes, by omega, by omega⟩
      · rename_i takes
        cases waits
        exact ⟨Nat.pos_of_ne_zero takes, by omega, by simp⟩

theorem go_on_waits {collector : Collector σ} {subject : Subject} (asked : Nat) (heard : Finding)
    (world : σ) {delay : Span} {found : Finding} {later : Nat}
    (waits : (goOn collector subject asked heard world).1 = .waiting delay found later) :
    0 < delay ∧ asked < later ∧ later ≤ collector.length := by
  cases heard with
  | error halt => cases waits
  | ok heard =>
      obtain ⟨takes, further, until_end⟩ := ask_waits waits
      rw [List.length_drop] at until_end
      exact ⟨takes, further, by omega⟩

theorem go_on_asks {collector : Collector σ} {P : σ → Prop} (subject : Subject) (asked : Nat)
    (heard : Finding) (world : σ) (holds : P world)
    (asks : ∀ x ∈ collector, ∀ world, P world → P (x.2 subject world).2) :
    P (goOn collector subject asked heard world).2 := by
  have each (rest : Collector σ) (within : ∀ x ∈ rest, x ∈ collector) (asked : Nat)
      (heard : List Measurement) (world : σ) (holds : P world) :
      P (ask subject rest asked heard world).2 := by
    induction rest generalizing asked heard world with
    | nil => exact holds
    | cons x rest ih =>
        have next := asks x (within x List.mem_cons_self) world holds
        rw [ask]
        dsimp only
        split
        · cases x.1.heed heard (x.2 subject world).1.finding with
          | ok found =>
              exact ih (fun y member => within y (List.mem_cons_of_mem x member)) _ found _ next
          | error halt => exact next
        · exact next
  cases heard with
  | ok heard => exact each _ (fun x member => List.mem_of_mem_drop member) asked heard world holds
  | error halt => exact holds

end Collector

-- Does what another provider does, but now and then has nothing to say where that one fails.
def Provider.Spares (provider other : Provider σ) : Prop :=
  ∀ subject world, provider subject world = other subject world ∨
    ∃ delay cause later, other subject world = (⟨delay, .error (.failed cause)⟩, later) ∧
      provider subject world = (⟨delay, .ok []⟩, later)

namespace Collector

inductive Spares : Requirement × Provider σ → Requirement × Provider σ → Prop where
  | same (x : Requirement × Provider σ) : Spares x x
  | optional {provider other : Provider σ} (spares : provider.Spares other) :
      Spares (.optional, provider) (.optional, other)

theorem spares_alike {x y : Requirement × Provider σ} (spares : Spares x y) (subject : Subject)
    (heard : List Measurement) (world : σ) :
    (x.2 subject world).2 = (y.2 subject world).2 ∧
      (x.2 subject world).1.delay = (y.2 subject world).1.delay ∧
      x.1.heed heard (x.2 subject world).1.finding = y.1.heed heard (y.2 subject world).1.finding := by
  cases spares with
  | same x => exact ⟨rfl, rfl, rfl⟩
  | @optional provider other spares =>
      rcases spares subject world with same | ⟨delay, cause, later, fails, silent⟩
      · simp only [same, and_self]
      · simp only [fails, silent, Requirement.heed, List.append_nil, and_self]

structure Matches (collector other : Collector σ) : Prop where
  rounds : ∀ subject asked heard world,
    collector.goOn subject asked heard world = other.goOn subject asked heard world
  collects : ∀ (c : Course σ) subject heard,
    c.collect subject collector heard = c.collect subject other heard
  length : collector.length = other.length

theorem ask_spared {collector other : Collector σ} (spares : List.Forall₂ Spares collector other)
    (subject : Subject) (asked : Nat) (heard : List Measurement) (world : σ) :
    ask subject collector asked heard world = ask subject other asked heard world := by
  induction spares generalizing asked heard world with
  | nil => rfl
  | @cons x y _ _ own _ ih =>
      obtain ⟨later, delay, heeds⟩ := spares_alike own subject heard world
      simp only [ask, later, delay, heeds, ih]

theorem collect_spared {collector other : Collector σ} (spares : List.Forall₂ Spares collector other)
    (c : Course σ) (subject : Subject) (heard : List Measurement) :
    c.collect subject collector heard = c.collect subject other heard := by
  induction spares generalizing c heard with
  | nil => rfl
  | @cons x y _ _ own _ ih =>
      obtain ⟨later, delay, heeds⟩ := spares_alike own subject heard c.world
      simp only [Course.collect, later, delay, heeds, ih]

theorem spared_matches {collector other : Collector σ}
    (spares : List.Forall₂ Spares collector other) : collector.Matches other where
  rounds subject asked heard world := by
    cases heard with
    | ok heard => exact ask_spared (List.forall₂_drop asked spares) subject asked heard world
    | error halt => rfl
  collects c subject heard := collect_spared spares c subject heard
  length := spares.length_eq

end Collector

end SqlBench
