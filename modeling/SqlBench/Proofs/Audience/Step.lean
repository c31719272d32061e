import Mathlib.Algebra.Ring.Nat
import Mathlib.Logic.Relation
import SqlBench.Audience

set_option autoImplicit false

namespace SqlBench.Audience

inductive Comes (a : Audience) (s : State) : Moment → Happening → Prop
  | posted {t : Moment} {event : Event} {rest : List (Moment × Event)}
      (ahead : s.toCome = (t, event) :: rest) : Comes a s t .posted
  | released {t : Moment} (told : s.toCome = []) (held : s.isHeld = true) (goes : a.farewell = some t) :
      Comes a s t .released
  | closed (opened : s.isClosing = false) : Comes a s a.closing .closed
  | passed {d : Desk} (closing : s.isClosing = true) (next : s.desks[s.passed]? = some d)
      (released : s.isHeld = false) (idle : d.isIdle = true) : Comes a s s.now .passed
  | dismissed {d : Desk} (closing : s.isClosing = true) (next : s.desks[s.passed]? = some d)
      (stays : s.isHeld = true ∨ d.isIdle = false) : Comes a s a.deadline .dismissed
  | returned (closing : s.isClosing = true) (all : s.desks[s.passed]? = none) (waits : s.finished = none) :
      Comes a s s.now .returned
  | worked {t : Moment} {place : Nat} {d : Desk} (there : s.desks[place]? = some d)
      (due : d.due? s.now = some t) : Comes a s t (.worked place)

def Happening.isAtDesk : Happening → Bool
  | .worked _ => true
  | _ => false

structure Next (a : Audience) (s : State) (t : Moment) (h : Happening) : Prop where
  comes : Comes a s t h
  first : ∀ {u : Moment} {other : Happening}, Comes a s u other → t ≤ u
  behind : h.isAtDesk = true → ∀ {u : Moment} {other : Happening}, Comes a s u other →
    other.isAtDesk = false → t < u

def Step (a : Audience) (s later : State) : Prop :=
  ∃ t h, Next a s t h ∧ later = s.occur t h

abbrev Reaches (a : Audience) : State → State → Prop :=
  Relation.ReflTransGen (Step a)

theorem mem_news {a : Audience} {s : State} {t : Moment} {h : Happening} :
    (t, h) ∈ a.news s ↔ (h = .posted ∨ h = .released) ∧ Comes a s t h := by
  constructor
  · intro member
    rw [news] at member
    split at member
    · rename_i post rest ahead
      cases List.mem_singleton.mp member
      exact ⟨.inl rfl, .posted ahead⟩
    · rename_i told
      split at member
      · rename_i held
        obtain ⟨u, goes, same⟩ := List.mem_map.mp member
        cases same
        exact ⟨.inr rfl, .released told held (Option.mem_toList.mp goes)⟩
      · cases member
  · rintro ⟨rfl | rfl, comes⟩
    · cases comes with
      | posted ahead => simp [news, ahead]
    · cases comes with
      | released told held goes => simp [news, told, held, goes]

theorem mem_ending {a : Audience} {s : State} {t : Moment} {h : Happening} :
    (t, h) ∈ a.ending s ↔
      (h = .closed ∨ h = .passed ∨ h = .dismissed ∨ h = .returned) ∧ Comes a s t h := by
  constructor
  · intro member
    rw [ending] at member
    split at member
    · rename_i closing
      split at member
      · rename_i d next
        split at member
        · rename_i ended
          obtain ⟨released, idle⟩ : s.isHeld = false ∧ d.isIdle = true := by simpa using ended
          cases List.mem_singleton.mp member
          exact ⟨.inr (.inl rfl), .passed closing next released idle⟩
        · rename_i goesOn
          cases List.mem_singleton.mp member
          refine ⟨.inr (.inr (.inl rfl)), .dismissed closing next ?_⟩
          cases held : s.isHeld with
          | true => exact .inl rfl
          | false => exact .inr (by simpa [held] using goesOn)
      · rename_i all
        split at member
        · rename_i waits
          cases List.mem_singleton.mp member
          exact ⟨.inr (.inr (.inr rfl)), .returned closing all (Option.isNone_iff_eq_none.mp waits)⟩
        · cases member
    · rename_i opened
      cases List.mem_singleton.mp member
      exact ⟨.inl rfl, .closed (Bool.eq_false_iff.mpr opened)⟩
  · rintro ⟨rfl | rfl | rfl | rfl, comes⟩
    · cases comes with
      | closed opened => simp [ending, opened]
    · cases comes with
      | passed closing next released idle => simp [ending, closing, next, released, idle]
    · cases comes with
      | dismissed closing next stays =>
          rcases stays with held | busy
          · simp [ending, closing, next, held]
          · simp [ending, closing, next, busy]
    · cases comes with
      | returned closing all waits => simp [ending, closing, all, waits]

theorem mem_working {a : Audience} {s : State} {t : Moment} {h : Happening} :
    (t, h) ∈ s.working ↔ h.isAtDesk = true ∧ Comes a s t h := by
  constructor
  · intro member
    obtain ⟨⟨d, place⟩, there, same⟩ := List.mem_filterMap.mp member
    obtain ⟨u, due, same⟩ := Option.map_eq_some_iff.mp same
    cases same
    exact ⟨rfl, .worked (List.mem_zipIdx_iff_getElem?.mp there) due⟩
  · rintro ⟨atDesk, comes⟩
    cases comes with
    | worked there due =>
        exact List.mem_filterMap.mpr
          ⟨(_, _), List.mem_zipIdx_iff_getElem?.mpr there, by simp [due]⟩
    | _ => cases atDesk

theorem mem_main {a : Audience} {s : State} {t : Moment} {h : Happening} :
    (t, h) ∈ a.news s ++ a.ending s ↔ h.isAtDesk = false ∧ Comes a s t h := by
  rw [List.mem_append, mem_news, mem_ending]
  cases h <;> simp [Happening.isAtDesk]

theorem mem_agenda {a : Audience} {s : State} {t : Moment} {h : Happening} :
    (t, h) ∈ a.news s ++ a.ending s ++ s.working ↔ Comes a s t h := by
  rw [List.mem_append, mem_main, mem_working (a := a)]
  cases h <;> simp [Happening.isAtDesk]

theorem earliest_none {xs : List (Moment × Happening)} (nothing : earliest? xs = none) : xs = [] := by
  cases xs with
  | nil => rfl
  | cons x rest =>
      rw [earliest?] at nothing
      split at nothing
      · split at nothing <;> cases nothing
      · cases nothing

theorem earliest_first {xs : List (Moment × Happening)} {x : Moment × Happening}
    (found : earliest? xs = some x) : x ∈ xs ∧ ∀ y ∈ xs, x.1 ≤ y.1 := by
  induction xs generalizing x with
  | nil => cases found
  | cons y rest ih =>
      rw [earliest?] at found
      split at found
      · rename_i z earliest
        obtain ⟨member, least⟩ := ih earliest
        split at found
        · rename_i sooner
          cases found
          refine ⟨List.mem_cons_self, List.forall_mem_cons.mpr ⟨Nat.le_refl _, ?_⟩⟩
          exact fun w inRest => Nat.le_trans sooner (least w inRest)
        · rename_i later
          cases found
          refine ⟨List.mem_cons_of_mem _ member, List.forall_mem_cons.mpr ⟨?_, least⟩⟩
          exact Nat.le_of_not_le later
      · rename_i nothing
        cases found
        rw [earliest_none nothing]
        simp

theorem earliest_behind {xs ys : List (Moment × Happening)} {x : Moment × Happening}
    (found : earliest? (xs ++ ys) = some x) : x ∈ xs ∨ ∀ y ∈ xs, x.1 < y.1 := by
  induction xs generalizing x with
  | nil => exact .inr nofun
  | cons y rest ih =>
      rw [List.cons_append, earliest?] at found
      split at found
      · rename_i z earliest
        split at found
        · cases found
          exact .inl List.mem_cons_self
        · rename_i later
          cases found
          rcases ih earliest with member | least
          · exact .inl (List.mem_cons_of_mem _ member)
          · exact .inr (List.forall_mem_cons.mpr ⟨Nat.lt_of_not_le later, least⟩)
      · cases found
        exact .inl List.mem_cons_self

theorem found_next {a : Audience} {s : State} {t : Moment} {h : Happening}
    (found : earliest? (a.news s ++ a.ending s ++ s.working) = some (t, h)) : Next a s t h := by
  obtain ⟨member, least⟩ := earliest_first found
  refine ⟨mem_agenda.mp member, fun comes => least _ (mem_agenda.mpr comes), ?_⟩
  intro atDesk u other comes main
  rcases earliest_behind found with listed | before
  · have notAtDesk := (mem_main.mp listed).1
    rw [atDesk] at notAtDesk
    cases notAtDesk
  · exact before _ (mem_main.mpr ⟨main, comes⟩)

theorem turn_cases (a : Audience) (s : State) :
    (a.turn s = s ∧ ∀ t h, ¬ Comes a s t h) ∨ Step a s (a.turn s) := by
  cases found : earliest? (a.news s ++ a.ending s ++ s.working) with
  | none =>
      refine .inl ⟨by simp only [turn, found], fun t h comes => ?_⟩
      have member := mem_agenda.mpr comes
      rw [earliest_none found] at member
      cases member
  | some x => exact .inr ⟨x.1, x.2, found_next found, by simp only [turn, found]⟩

theorem turns_reached (a : Audience) (n : Nat) {first s : State} (reached : a.Reaches first s) :
    a.Reaches first (a.turns n s) := by
  induction n generalizing s with
  | zero => exact reached
  | succ n ih =>
      rw [turns]
      refine ih ?_
      rcases turn_cases a s with ⟨stays, -⟩ | step
      · rw [stays]
        exact reached
      · exact reached.tail step

theorem run_reached (a : Audience) (listeners : List Listener) (posts : List (Moment × Event)) :
    a.Reaches (.start listeners posts) (a.run listeners posts) :=
  turns_reached a _ .refl

theorem reached_keeps {a : Audience} {I : State → Prop}
    (steps : ∀ s t h, I s → Next a s t h → I (s.occur t h)) {s later : State} (holds : I s)
    (reached : a.Reaches s later) : I later := by
  induction reached with
  | refl => exact holds
  | tail _ step ih =>
      obtain ⟨t, h, next, rfl⟩ := step
      exact steps _ t h ih next

def load (d : Desk) : Nat :=
  2 * d.inbox.length + d.inHand.toList.length

-- What is left to do. A post puts one more event on each desk.
def State.measure (s : State) : Nat :=
  s.toCome.length * (2 * s.desks.length + 1) + s.isHeld.toNat + (!s.isClosing).toNat +
    (s.desks.length - s.passed) + s.finished.isNone.toNat + (s.desks.map load).sum

theorem load_receive (event : Event) (d : Desk) : load (d.receive event) ≤ load d + 2 := by
  rw [Desk.receive]
  split
  · exact Nat.le_add_right _ _
  · simp only [load, List.length_append, List.length_singleton]
    omega

theorem load_work {d : Desk} {now t : Moment} (due : d.due? now = some t) (later : Moment) :
    load (d.work later) + 1 = load d := by
  cases held : d.inHand with
  | some x => simp [Desk.work, load, held]
  | none =>
      cases waiting : d.inbox with
      | nil => simp [Desk.due?, held, waiting] at due
      | cons event rest =>
          simp only [Desk.work, load, held, waiting, Option.toList_some, Option.toList_none,
            List.length_cons, List.length_nil]
          omega

theorem loads_receive (event : Event) (desks : List Desk) :
    ((desks.map (Desk.receive event)).map load).sum ≤ (desks.map load).sum + 2 * desks.length := by
  induction desks with
  | nil => exact Nat.le_refl 0
  | cons d rest ih =>
      have front := load_receive event d
      simp only [List.map_cons, List.sum_cons, List.length_cons]
      omega

theorem loads_work {desks : List Desk} {place : Nat} {d : Desk} {now t : Moment}
    (there : desks[place]? = some d) (due : d.due? now = some t) (later : Moment) :
    ((desks.modify place (Desk.work later)).map load).sum + 1 = (desks.map load).sum := by
  induction desks generalizing place with
  | nil => cases there
  | cons first rest ih =>
      cases place with
      | zero =>
          cases there
          have fewer := load_work due later
          simp only [List.modify_zero_cons, List.map_cons, List.sum_cons]
          omega
      | succ place =>
          have fewer := ih there
          simp only [List.modify_succ_cons, List.map_cons, List.sum_cons]
          omega

theorem loads_dismiss (desks : List Desk) (place : Nat) :
    (desks.modify place Desk.dismiss).map load = desks.map load := by
  refine List.ext_getElem? fun i => ?_
  rw [List.getElem?_map, List.getElem?_map, List.getElem?_modify]
  cases desks[i]? with
  | none => rfl
  | some d => by_cases same : place = i <;> simp [same, load, Desk.dismiss]

theorem step_measure {a : Audience} {s later : State} (step : Step a s later) :
    later.measure < s.measure := by
  obtain ⟨t, h, next, rfl⟩ := step
  cases next.comes with
  | @posted _ event rest ahead =>
      have more := loads_receive event s.desks
      simp only [State.occur, State.measure, ahead, List.length_map, List.length_cons, Nat.succ_mul]
      omega
  | released told held =>
      simp only [State.occur, State.measure, held, Bool.toNat_true, Bool.toNat_false]
      omega
  | closed opened =>
      simp only [State.occur, State.measure, opened, Bool.not_true, Bool.not_false, Bool.toNat_true,
        Bool.toNat_false]
      omega
  | passed closing there =>
      have inside := (List.getElem?_eq_some_iff.mp there).1
      simp only [State.occur, State.measure]
      omega
  | dismissed closing there =>
      have inside := (List.getElem?_eq_some_iff.mp there).1
      simp only [State.occur, State.measure, List.length_modify, loads_dismiss]
      omega
  | returned closing all waits =>
      simp only [State.occur, State.measure, waits, Option.isNone_none, Option.isNone_some,
        Bool.toNat_true, Bool.toNat_false]
      omega
  | @worked _ place d there due =>
      have fewer := loads_work there due (max s.now t)
      simp only [State.occur, State.measure, List.length_modify]
      omega

theorem steps_end (a : Audience) : WellFounded fun later s : State => Step a s later :=
  Subrelation.wf step_measure (InvImage.wf State.measure Nat.lt_wfRel.wf)

theorem turns_stay {a : Audience} {s : State} (stays : a.turn s = s) (n : Nat) : a.turns n s = s := by
  induction n with
  | zero => rfl
  | succ n ih => rw [turns, stays, ih]

theorem turns_exhaust (a : Audience) (n : Nat) {s : State} (enough : s.measure ≤ n) :
    ∀ t h, ¬ Comes a (a.turns n s) t h := by
  induction n generalizing s with
  | zero =>
      rcases turn_cases a s with ⟨-, nothing⟩ | step
      · exact nothing
      · have fewer := step_measure step
        omega
  | succ n ih =>
      rcases turn_cases a s with ⟨stays, nothing⟩ | step
      · rw [turns_stay stays]
        exact nothing
      · have fewer := step_measure step
        rw [turns]
        exact ih (by omega)

theorem in_turn_length (before : Moment) (posts : List (Moment × Event)) :
    (inTurn before posts).length = posts.length := by
  induction posts generalizing before with
  | nil => rfl
  | cons post rest ih => simp only [inTurn, List.length_cons, ih]

theorem start_measure (listeners : List Listener) (posts : List (Moment × Event)) :
    (State.start listeners posts).measure = workload listeners posts := by
  have idle : ((listeners.map Desk.start).map load).sum = 0 := by
    simp [Function.comp_def, load, Desk.start, List.map_const']
  simp only [State.measure, State.start, in_turn_length, idle, workload, List.length_map,
    Bool.toNat_true, Bool.not_false, Option.isNone_none]
  omega

theorem run_ends (a : Audience) (listeners : List Listener) (posts : List (Moment × Event))
    (later : State) : ¬ Step a (a.run listeners posts) later := by
  rintro ⟨t, h, next, -⟩
  exact turns_exhaust a _ (Nat.le_of_eq (start_measure listeners posts)) t h next.comes

end SqlBench.Audience
