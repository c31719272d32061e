import Mathlib.Data.List.Perm.Subperm
import SqlBench.Proofs.Pool.Census
import SqlBench.Proofs.Pool.Order

set_option autoImplicit false

namespace SqlBench.Pool

variable {σ : Type}

def Fate.result? : Fate → Option ExecutionResult
  | .finished r => some r
  | _ => none

def Fate.isSkipped : Fate → Bool
  | .skipped => true
  | _ => false

def State.reports (s : State σ) (number : Nat) : Nat :=
  s.results.countP fun r => r.execution.number = number

def State.skips (s : State σ) (place : Nat) : Nat :=
  s.fates.countP fun f => f.1 = place && f.2.isSkipped

theorem results_by_number (s : State σ) :
    s.results = byNumber (s.fates.filterMap fun f => f.2.result?) := by
  rw [State.results]
  congr 2
  funext f
  cases f with
  | mk place fate => cases fate <;> rfl

theorem results_perm (s : State σ) : s.results.Perm (s.fates.filterMap fun f => f.2.result?) :=
  results_by_number s ▸ by_number_perm _

theorem mem_results {s : State σ} {r : ExecutionResult} :
    r ∈ s.results ↔ ∃ place, (place, Fate.finished r) ∈ s.fates := by
  rw [(results_perm s).mem_iff, List.mem_filterMap]
  constructor
  · rintro ⟨⟨place, fate⟩, member, found⟩
    cases fate with
    | finished result =>
        cases found
        exact ⟨place, member⟩
    | _ => cases found
  · rintro ⟨place, member⟩
    exact ⟨_, member, rfl⟩

theorem notice_skips {p : Pool σ} {held : Option Crash} {s : State σ} {f : Nat × Fate}
    (member : f ∈ (p.notice held s).fates) (isSkipped : f.2 = .skipped) : f ∈ s.fates := by
  cases held with
  | none => exact member
  | some x =>
      rw [notice_crashed] at member
      split at member
      all_goals
        rcases List.mem_append.mp member with before | new
        · exact before
        · rw [List.mem_singleton.mp new] at isSkipped
          cases isSkipped

theorem record_skips {p : Pool σ} {place : Nat} {r : ExecutionResult} {s : State σ} {f : Nat × Fate}
    (member : f ∈ (p.record place r s).fates) (isSkipped : f.2 = .skipped) : f ∈ s.fates := by
  rcases List.mem_append.mp member with before | new
  · exact before
  · rw [List.mem_singleton.mp new] at isSkipped
    cases isSkipped

theorem inquire_skips {p : Pool σ} {place : Nat} {e : Execution} {r : ExecutionResult} {asked : Nat}
    {heard : Finding} {s : State σ} {f : Nat × Fate}
    (member : f ∈ (p.inquire place e r asked heard s).fates) (isSkipped : f.2 = .skipped) :
    f ∈ s.fates := by
  obtain ⟨world, inquires⟩ := inquire_cases p place e r asked heard s
  generalize p.inquire place e r asked heard s = later at inquires member
  cases inquires with
  | records answer => exact record_skips (p := p) member isSkipped
  | _ => exact member

theorem follow_skips {p : Pool σ} {place : Nat} {e : Execution} {standing : Standing} {s : State σ}
    {f : Nat × Fate} (member : f ∈ (p.follow place e standing s).fates) (isSkipped : f.2 = .skipped) :
    f ∈ s.fates := by
  cases standing with
  | waiting nap => exact member
  | crashed panic => exact member
  | finished r => exact inquire_skips member isSkipped
  | dropped cause =>
      rcases List.mem_append.mp member with before | new
      · exact before
      · rw [List.mem_singleton.mp new] at isSkipped
        cases isSkipped

theorem resume_skips {p : Pool σ} {x : Sleeper} {s : State σ} {f : Nat × Fate}
    (member : f ∈ (p.resume x s).fates) (isSkipped : f.2 = .skipped) : f ∈ s.fates := by
  cases wait : x.wait with
  | call nap =>
      rw [resume_call p wait] at member
      have earlier := follow_skips member isSkipped
      exact earlier
  | answer r heard asked =>
      rw [resume_answer p wait] at member
      exact inquire_skips member isSkipped

theorem step_skips {p : Pool σ} {s later : State σ} (step : Step p s later) {f : Nat × Fate}
    (member : f ∈ later.fates) (isSkipped : f.2 = .skipped) :
    f ∈ s.fates ∨ p.isStopped s = true ∧ ∃ e, (f.1, e) ∈ s.queue := by
  cases step with
  | wake x t =>
      rw [wake] at member
      have earlier := resume_skips member isSkipped
      exact .inl earlier
  | enter =>
      rw [enter] at member
      have launched := notice_skips member isSkipped
      have earlier := follow_skips launched isSkipped
      exact .inl earlier
  | turnAway waiting stopped =>
      rw [turnAway] at member
      rcases List.mem_append.mp (notice_skips member isSkipped) with before | new
      · exact .inl before
      · obtain ⟨x, queued, same⟩ := List.mem_map.mp new
        exact .inr ⟨stopped, x.2, same ▸ queued⟩
  | attend x broken =>
      rw [attend] at member
      have earlier := notice_skips member isSkipped
      exact .inl earlier

theorem skipped_from_queue {p : Pool σ} {first s : State σ} (fresh : first.fates = [])
    (reached : p.Reaches first s) {f : Nat × Fate} (member : f ∈ s.fates)
    (isSkipped : f.2 = .skipped) :
    ∃ mid, p.Reaches first mid ∧ p.Reaches mid s ∧ p.isStopped mid = true ∧
      ∃ e, (f.1, e) ∈ mid.queue := by
  induction reached with
  | refl =>
      rw [fresh] at member
      cases member
  | @tail now later before step ih =>
      rcases step_skips step member isSkipped with earlier | ⟨stopped, e, queued⟩
      · obtain ⟨mid, there, onward, found⟩ := ih earlier
        exact ⟨mid, there, onward.tail step, found⟩
      · exact ⟨now, before, .single step, stopped, e, queued⟩

theorem notice_reports {p : Pool σ} (records : p.recordsCrashes = true) (x : Crash) (s : State σ) :
    ∃ now, (x.place, Fate.finished (crashedResult x.execution x.panic now)) ∈
      (p.notice (some x) s).fates := by
  refine ⟨s.course.now, ?_⟩
  simp [notice_crashed, records, record, State.conclude]

theorem step_reports {p : Pool σ} (records : p.recordsCrashes = true) {s later : State σ}
    (step : Step p s later) {x : Crash} (broken : s.crash = some x) :
    ∃ now, (x.place, Fate.finished (crashedResult x.execution x.panic now)) ∈ later.fates := by
  cases step with
  | wake _ _ _ _ noticed =>
      rw [noticed] at broken
      cases broken
  | enter =>
      rw [enter, broken]
      exact notice_reports records x _
  | turnAway =>
      rw [turnAway, broken]
      exact notice_reports records x _
  | attend =>
      rw [attend, broken]
      exact notice_reports records x _

theorem breakdown_reported {p : Pool σ} (records : p.recordsCrashes = true) {mid s : State σ}
    (reached : p.Reaches mid s) (isDone : s.IsDone) {x : Crash} (broken : mid.crash = some x) :
    ∃ now, crashedResult x.execution x.panic now ∈ s.results := by
  rcases Relation.ReflTransGen.cases_head reached with same | ⟨next, step, rest⟩
  · rw [same, isDone.noticed] at broken
    cases broken
  · obtain ⟨now, told⟩ := step_reports records step broken
    exact ⟨now, mem_results.mpr ⟨x.place, (reaches_grows rest).fates.subset told⟩⟩

section Once

variable {p : Pool σ} {executions : List Execution} {s : State σ}

theorem places_by_number (distinct : (executions.map Execution.number).Nodup) {i j : Nat}
    {a b : Execution} (atI : executions[i]? = some a) (atJ : executions[j]? = some b) :
    a.number = b.number ↔ i = j := by
  have numberI : (executions.map Execution.number)[i]? = some a.number := by
    rw [List.getElem?_map, atI, Option.map_some]
  have numberJ : (executions.map Execution.number)[j]? = some b.number := by
    rw [List.getElem?_map, atJ, Option.map_some]
  constructor
  · intro same
    have bound := (List.getElem?_eq_some_iff.mp numberI).1
    exact (List.getElem?_inj bound distinct).mp (numberI.trans (same ▸ numberJ.symm))
  · rintro rfl
    exact congrArg Execution.number (Option.some.inj (atI.symm.trans atJ))

theorem result_placed (orderly : s.Orderly p executions) {f : Nat × Fate} (member : f ∈ s.fates)
    {r : ExecutionResult} (found : f.2.result? = some r) : executions[f.1]? = some r.execution := by
  obtain ⟨e, placed, befits⟩ := orderly.told f member
  cases fate : f.2 with
  | finished result =>
      rw [fate] at found befits
      cases found
      exact (befits : r.execution = e) ▸ placed
  | _ =>
      rw [fate] at found
      cases found

theorem told_result (orderly : s.Orderly p executions) (records : p.recordsCrashes = true)
    {f : Nat × Fate} (member : f ∈ s.fates) :
    f.2 = .skipped ∨ ∃ r, f.2 = .finished r ∧ executions[f.1]? = some r.execution := by
  obtain ⟨e, placed, befits⟩ := orderly.told f member
  cases fate : f.2 with
  | finished r => exact .inr ⟨r, rfl, result_placed orderly member (by rw [fate]; rfl)⟩
  | crashed panic =>
      rw [fate] at befits
      exact absurd records (Bool.eq_false_iff.mp befits)
  | dropped cause =>
      rw [fate] at befits
      exact False.elim befits
  | skipped => exact .inl rfl

theorem reports_by_place (orderly : s.Orderly p executions) (records : p.recordsCrashes = true)
    (distinct : (executions.map Execution.number).Nodup) {place : Nat} {e : Execution}
    (placed : executions[place]? = some e) :
    s.reports e.number = s.fates.countP fun f => f.1 = place && !f.2.isSkipped := by
  rw [State.reports, (results_perm s).countP_eq, List.countP_filterMap]
  refine List.countP_congr fun f member => ?_
  rcases told_result orderly records member with isSkipped | ⟨r, finished, own⟩
  · simp [isSkipped, Fate.result?, Fate.isSkipped]
  · simp [finished, Fate.result?, Fate.isSkipped, places_by_number distinct own placed]

theorem reported_or_skipped (orderly : s.Orderly p executions) (records : p.recordsCrashes = true)
    (distinct : (executions.map Execution.number).Nodup)
    (complete : (s.fates.map Prod.fst).Perm (List.range executions.length)) {place : Nat}
    {e : Execution} (placed : executions[place]? = some e) :
    s.reports e.number + s.skips place = 1 := by
  have inside : place ∈ List.range executions.length :=
    List.mem_range.mpr (List.getElem?_eq_some_iff.mp placed).1
  have total : s.fates.countP (fun f => f.1 = place) = 1 := by
    have once : (List.range executions.length).count place = 1 := by
      rw [List.Nodup.count List.nodup_range, if_pos inside]
    rw [← complete.count_eq, List.count, List.countP_map] at once
    exact once
  rw [reports_by_place orderly records distinct placed, State.skips, ← total,
    List.countP_eq_countP_filter_add s.fates (fun f => f.1 = place) fun f => !f.2.isSkipped,
    List.countP_filter, List.countP_filter]
  simp

theorem results_own (orderly : s.Orderly p executions) {r : ExecutionResult}
    (reported : r ∈ s.results) : r.execution ∈ executions := by
  obtain ⟨place, member⟩ := mem_results.mp reported
  exact List.mem_of_getElem? (result_placed orderly member rfl)

theorem result_numbers_distinct (orderly : s.Orderly p executions)
    (distinct : (executions.map Execution.number).Nodup)
    (complete : (s.fates.map Prod.fst).Perm (List.range executions.length)) :
    (s.results.map fun r => r.execution.number).Nodup := by
  have different : s.fates.Pairwise fun f g => f.1 ≠ g.1 := by
    rw [← List.pairwise_map (f := Prod.fst) (R := Ne)]
    exact complete.nodup_iff.mpr List.nodup_range
  rw [((results_perm s).map _).nodup_iff, List.map_filterMap, List.Nodup, List.pairwise_filterMap]
  refine different.imp_of_mem fun {f g} memberF memberG apart m foundF n foundG same => ?_
  rw [Option.map_eq_some_iff] at foundF foundG
  obtain ⟨a, resultF, rfl⟩ := foundF
  obtain ⟨b, resultG, rfl⟩ := foundG
  have placedF := result_placed orderly memberF resultF
  have placedG := result_placed orderly memberG resultG
  exact apart ((places_by_number distinct placedF placedG).mp same)

theorem results_ascend (orderly : s.Orderly p executions)
    (distinct : (executions.map Execution.number).Nodup)
    (complete : (s.fates.map Prod.fst).Perm (List.range executions.length)) :
    s.results.Pairwise fun a b => a.execution.number < b.execution.number := by
  have numbers := result_numbers_distinct orderly distinct complete
  rw [((results_perm s).map _).nodup_iff] at numbers
  rw [results_by_number]
  exact by_number_ascending _ numbers

theorem reported_result (orderly : s.Orderly p executions)
    (distinct : (executions.map Execution.number).Nodup) {e : Execution} (member : e ∈ executions)
    (reported : s.reports e.number ≠ 0) : ∃ r ∈ s.results, r.execution = e := by
  obtain ⟨r, found, same⟩ := List.countP_pos_iff.mp (Nat.pos_of_ne_zero reported)
  obtain ⟨i, atI⟩ := List.mem_iff_getElem?.mp (results_own orderly found)
  obtain ⟨j, atJ⟩ := List.mem_iff_getElem?.mp member
  have places := (places_by_number distinct atI atJ).mp (of_decide_eq_true same)
  rw [places] at atI
  exact ⟨r, found, Option.some.inj (atI.symm.trans atJ)⟩

theorem unstopped_skips_nobody (orderly : s.Orderly p executions) (goesOn : p.isStopped s = false)
    (place : Nat) : s.skips place = 0 := by
  refine List.countP_eq_zero.mpr fun f member isOne => ?_
  rw [Bool.and_eq_true] at isOne
  cases fate : f.2 with
  | skipped =>
      rw [orderly.skipped f member fate] at goesOn
      cases goesOn
  | _ =>
      rw [fate] at isOne
      cases isOne.2

theorem unstopped_reports_all (orderly : s.Orderly p executions) (records : p.recordsCrashes = true)
    (distinct : (executions.map Execution.number).Nodup)
    (complete : (s.fates.map Prod.fst).Perm (List.range executions.length))
    (goesOn : p.isStopped s = false) :
    (s.results.map ExecutionResult.execution).Perm executions := by
  have once : (s.results.map ExecutionResult.execution).Nodup := by
    refine List.Nodup.of_map Execution.number ?_
    rw [List.map_map]
    exact result_numbers_distinct orderly distinct complete
  refine (List.perm_ext_iff_of_nodup once (List.Nodup.of_map _ distinct)).mpr fun e => ⟨?_, ?_⟩
  · intro member
    obtain ⟨r, reported, own⟩ := List.mem_map.mp member
    exact own ▸ results_own orderly reported
  · intro member
    obtain ⟨place, placed⟩ := List.mem_iff_getElem?.mp member
    have total := reported_or_skipped orderly records distinct complete placed
    rw [unstopped_skips_nobody orderly goesOn place] at total
    obtain ⟨r, reported, own⟩ := reported_result orderly distinct member (by omega)
    exact List.mem_map.mpr ⟨r, reported, own⟩

end Once

structure Settled (p : Pool σ) (executions : List Execution) (c : Course σ) (s : State σ) : Prop where
  ascending : s.results.Pairwise fun a b => a.execution.number < b.execution.number
  own : ∀ r ∈ s.results, r.execution ∈ executions
  once : ∀ place e, executions[place]? = some e → s.reports e.number + s.skips place = 1
  broken : ∀ mid x, p.Reaches (.start executions c) mid → p.Reaches mid s → mid.crash = some x →
    x.execution ∈ executions ∧ ∃ r ∈ s.results, r.execution = x.execution ∧
      r.failure = some (.illegal (.crashed x.execution.label x.panic)) ∧ r.isSuccessful = false
  skipped : ∀ place, 0 < s.skips place → ∃ mid, p.Reaches (.start executions c) mid ∧
    p.Reaches mid s ∧ p.isStopped mid = true ∧ ∃ e, (place, e) ∈ mid.queue
  unstopped : p.isStopped s = false → (s.results.map ExecutionResult.execution).Perm executions

theorem done_is_settled {p : Pool σ} {executions : List Execution} {c : Course σ} {s : State σ}
    (records : p.recordsCrashes = true) (distinct : (executions.map Execution.number).Nodup)
    (reached : p.Reaches (.start executions c) s) (isDone : s.IsDone) : Settled p executions c s := by
  have orderly := reached_orderly reached
  have complete := fates_complete reached isDone
  refine ⟨results_ascend orderly distinct complete, fun r => results_own orderly,
    fun place e => reported_or_skipped orderly records distinct complete, ?_, ?_,
    unstopped_reports_all orderly records distinct complete⟩
  · intro mid x there onward crash
    obtain ⟨now, reported⟩ := breakdown_reported records onward isDone crash
    exact ⟨List.mem_of_getElem? ((reached_orderly there).broken x crash), _, reported, rfl, rfl, rfl⟩
  · intro place positive
    obtain ⟨f, member, isOne⟩ := List.countP_pos_iff.mp positive
    rw [Bool.and_eq_true, decide_eq_true_eq] at isOne
    have isSkipped : f.2 = .skipped := by
      cases fate : f.2 with
      | skipped => rfl
      | _ =>
          rw [fate] at isOne
          cases isOne.2
    exact isOne.1 ▸ skipped_from_queue rfl reached member isSkipped

theorem all_reported_in_order {p : Pool σ} {executions : List Execution} {c : Course σ} {s : State σ}
    (records : p.recordsCrashes = true) (ascending : executions.Pairwise fun a b => a.number < b.number)
    (reached : p.Reaches (.start executions c) s) (isDone : s.IsDone)
    (whole : p.isStopped s = false ∨ executions.length ≤ s.results.length) :
    s.results.map ExecutionResult.execution = executions := by
  have distinct : (executions.map Execution.number).Nodup :=
    List.pairwise_map.mpr (ascending.imp Nat.ne_of_lt)
  have settled := done_is_settled records distinct reached isDone
  have ordered : (s.results.map ExecutionResult.execution).Pairwise fun a b => a.number < b.number :=
    List.pairwise_map.mpr settled.ascending
  have same : (s.results.map ExecutionResult.execution).Perm executions := by
    rcases whole with goesOn | enough
    · exact settled.unstopped goesOn
    · have once : (s.results.map ExecutionResult.execution).Nodup :=
        ordered.imp fun less same => absurd (congrArg Execution.number same) (Nat.ne_of_lt less)
      have own : s.results.map ExecutionResult.execution ⊆ executions := by
        intro e member
        obtain ⟨r, reported, rfl⟩ := List.mem_map.mp member
        exact settled.own r reported
      have part := List.Nodup.subperm once own
      exact part.perm_of_length_le (by rwa [List.length_map])
  exact same.eq_of_pairwise (fun a b _ _ less more => absurd more (Nat.lt_asymm less)) ordered ascending

theorem stopped_itself {p : Pool σ} {executions : List Execution} {c : Course σ} {s : State σ}
    (reached : p.Reaches (.start executions c) s) (stopped : s.hasStopped = true) :
    ∃ r ∈ s.results, r.isSuccessful = false := by
  obtain ⟨-, ⟨place, fate⟩, member, r, rfl, failed⟩ := (reached_orderly reached).stopped stopped
  exact ⟨r, mem_results.mpr ⟨place, member⟩, failed⟩

def State.Strict (p : Pool σ) (s : State σ) : Prop :=
  p.stopOnFailure = true → ∀ place r, (place, Fate.finished r) ∈ s.fates → r.isSuccessful = false →
    s.hasStopped = true

section Strict

variable {p : Pool σ} {s : State σ}

theorem record_strict (strict : s.Strict p) (place : Nat) (r : ExecutionResult) :
    (p.record place r s).Strict p := by
  intro policy i told member failed
  rcases List.mem_append.mp member with before | new
  · have stopped := strict policy i told before failed
    simp [record, stopped]
  · cases List.mem_singleton.mp new
    simp [record, policy, failed]

theorem conclude_strict (strict : s.Strict p) (place : Nat) {fate : Fate}
    (unfinished : fate.result? = none) : (s.conclude place fate).Strict p := by
  intro policy i told member failed
  rcases List.mem_append.mp member with before | new
  · exact strict policy i told before failed
  · cases List.mem_singleton.mp new
    cases unfinished

theorem notice_strict (strict : s.Strict p) (held : Option Crash) : (p.notice held s).Strict p := by
  cases held with
  | none => exact strict
  | some x =>
      rw [notice_crashed]
      split
      · exact record_strict strict x.place _
      · exact conclude_strict strict x.place rfl

theorem inquire_strict (strict : s.Strict p) (place : Nat) (e : Execution) (r : ExecutionResult)
    (asked : Nat) (heard : Finding) : (p.inquire place e r asked heard s).Strict p := by
  obtain ⟨world, inquires⟩ := inquire_cases p place e r asked heard s
  generalize p.inquire place e r asked heard s = later at inquires
  cases inquires with
  | records answer =>
      exact record_strict (s := { s with course := { s.course with world := world } }) strict place _
  | _ => exact strict

theorem follow_strict (strict : s.Strict p) (place : Nat) (e : Execution) (standing : Standing) :
    (p.follow place e standing s).Strict p := by
  cases standing with
  | waiting nap => exact strict
  | finished r => exact inquire_strict strict place e r 0 (.ok [])
  | dropped cause => exact conclude_strict strict place rfl
  | crashed panic => exact strict

theorem resume_strict (strict : s.Strict p) (x : Sleeper) : (p.resume x s).Strict p := by
  cases wait : x.wait with
  | call nap =>
      rw [resume_call p wait]
      exact follow_strict (s := { s with course := (nap.resume p.services s.course).2 }) strict x.place
        x.execution _
  | answer r heard asked =>
      rw [resume_answer p wait]
      exact inquire_strict strict x.place x.execution r asked heard

theorem step_strict {later : State σ} (strict : s.Strict p) (step : Step p s later) :
    later.Strict p := by
  cases step with
  | @wake before after x t =>
      exact resume_strict (s := { s with running := before ++ after, course := s.course.advanceTo t })
        strict x
  | @enter x rest =>
      have begun : (p.launch x.1 x.2 { s with queue := rest, crash := none }).Strict p :=
        follow_strict (s := { s with queue := rest, crash := none, course := _ }) strict x.1 x.2 _
      exact notice_strict begun s.crash
  | turnAway =>
      refine notice_strict (s := skip { s with crash := none } s.queue) ?_ s.crash
      intro policy i told member failed
      rcases List.mem_append.mp member with before | new
      · exact strict policy i told before failed
      · obtain ⟨x, -, same⟩ := List.mem_map.mp new
        cases same
  | attend => exact notice_strict (s := { s with crash := none }) strict s.crash

end Strict

theorem failure_stops {p : Pool σ} {executions : List Execution} {c : Course σ} {s : State σ}
    (reached : p.Reaches (.start executions c) s) (policy : p.stopOnFailure = true)
    {r : ExecutionResult} (reported : r ∈ s.results) (failed : r.isSuccessful = false) :
    s.hasStopped = true := by
  obtain ⟨place, member⟩ := mem_results.mp reported
  have strict : s.Strict p := by
    refine reached_keeps (fun _ _ strict step => step_strict strict step) ?_ reached
    simp [State.Strict, State.start]
  exact strict policy place r member failed

theorem done_is_stuck {p : Pool σ} {s : State σ} (isDone : s.IsDone) (later : State σ) :
    ¬ Step p s later := by
  intro step
  cases step with
  | wake x t asleep => simp [isDone.running] at asleep
  | enter waiting => simp [isDone.queue] at waiting
  | turnAway waiting => exact waiting isDone.queue
  | attend x broken => simp [isDone.noticed] at broken

def fragile : Services Unit where
  take call _ :=
    match call with
    | .send _ statement =>
      (⟨1, 0, false, if statement = "DROP" then .crashed "boom" else .rows 1 none⟩, ())
    | _ => (.instant .done, ())
  queries := ⟨.directory [], [], Dict.empty⟩
  hooks := Dict.empty
  collector := []

def fragileRun : List Execution :=
  [⟨Benchmark.named "drop" "memory", "drop", 2, Dict.empty, "DROP"⟩,
    ⟨Benchmark.named "drop" "memory", "read", 0, Dict.empty, "READ"⟩,
    ⟨Benchmark.named "drop" "memory", "read", 1, Dict.empty, "READ"⟩]

def fragilePool : Pool Unit :=
  ⟨fragile, 1, true, none, false, true⟩

end SqlBench.Pool
