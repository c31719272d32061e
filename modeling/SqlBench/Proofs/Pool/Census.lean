import Mathlib.Data.List.Nodup
import SqlBench.Proofs.Pool.Progress

set_option autoImplicit false

namespace SqlBench.Pool

variable {σ : Type}

def State.count (s : State σ) (i : Nat) : Nat :=
  (s.queue.map Prod.fst).count i + (s.running.map Sleeper.place).count i +
    (s.crash.toList.map Crash.place).count i + (s.fates.map Prod.fst).count i

theorem count_record (p : Pool σ) (place : Nat) (r : ExecutionResult) (s : State σ) (i : Nat) :
    (p.record place r s).count i = s.count i + [place].count i := by
  simp only [State.count, record, State.conclude, List.map_append, List.map_cons, List.map_nil,
    List.count_append]
  omega

theorem count_notice (p : Pool σ) (held : Option Crash) (s : State σ) (i : Nat) :
    (p.notice held s).count i = s.count i + (held.toList.map Crash.place).count i := by
  cases held with
  | none => rfl
  | some x =>
      rw [notice_crashed]
      split
      · exact count_record p x.place _ s i
      · simp only [State.count, State.conclude, List.map_append, List.count_append, List.map_cons,
          List.map_nil, Option.toList_some]
        omega

theorem count_inquire (p : Pool σ) (place : Nat) (e : Execution) (r : ExecutionResult) (asked : Nat)
    (heard : Finding) (s : State σ) (noticed : s.crash = none) (i : Nat) :
    (p.inquire place e r asked heard s).count i = s.count i + [place].count i := by
  obtain ⟨world, inquires⟩ := inquire_cases p place e r asked heard s
  generalize p.inquire place e r asked heard s = later at inquires
  cases inquires with
  | records answer => exact count_record p place _ _ i
  | _ =>
      simp only [State.sleep, State.count, noticed, List.map_append, List.count_append,
        List.map_cons, List.map_nil, Option.toList_none, Option.toList_some, List.count_nil]
      omega

theorem count_follow (p : Pool σ) (place : Nat) (e : Execution) (standing : Standing)
    (s : State σ) (noticed : s.crash = none) (i : Nat) :
    (p.follow place e standing s).count i = s.count i + [place].count i := by
  cases standing with
  | finished r => exact count_inquire p place e r 0 (.ok []) s noticed i
  | _ =>
      simp only [follow, State.sleep, State.count, State.conclude, noticed, List.map_append,
        List.count_append, List.map_cons, List.map_nil, Option.toList_none, Option.toList_some,
        List.count_nil]
      omega

theorem count_resume (p : Pool σ) (x : Sleeper) (s : State σ) (noticed : s.crash = none) (i : Nat) :
    (p.resume x s).count i = s.count i + [x.place].count i := by
  cases wait : x.wait with
  | call nap =>
      rw [resume_call p wait, count_follow p _ _ _ _ (by exact noticed)]
      rfl
  | answer r heard asked =>
      rw [resume_answer p wait]
      exact count_inquire p x.place x.execution r asked heard s noticed i

theorem count_step {p : Pool σ} {s later : State σ} (step : Step p s later) (i : Nat) :
    later.count i = s.count i := by
  cases step with
  | wake x t asleep due noticed =>
      rw [wake, count_resume p _ _ (by exact noticed)]
      simp only [State.count, asleep, List.map_append, List.map_cons, List.count_append,
        List.count_cons, List.count_nil]
      omega
  | @enter x rest waiting =>
      rw [enter, count_notice, launch, count_follow p _ _ _ _ rfl]
      simp only [State.count, waiting, List.map_cons, List.count_cons, List.count_nil,
        Option.toList_none, List.map_nil]
      omega
  | turnAway =>
      have places : (s.queue.map fun x => (x.1, Fate.skipped)).map Prod.fst = s.queue.map Prod.fst :=
        List.map_map
      rw [turnAway, count_notice]
      simp only [State.count, skip, List.map_append, places, List.count_append, Option.toList_none,
        List.map_nil, List.count_nil]
      omega
  | attend x broken =>
      rw [attend, count_notice]
      simp only [State.count, Option.toList_none, List.map_nil, List.count_nil]
      omega

theorem start_places (executions : List Execution) (c : Course σ) :
    (State.start executions c).queue.map Prod.fst = List.range executions.length := by
  simp [State.start, Function.comp_def, List.zipIdx_map_snd, List.range_eq_range']

theorem count_reached {p : Pool σ} {executions : List Execution} {c : Course σ} {s : State σ}
    (reached : p.Reaches (.start executions c) s) (i : Nat) :
    s.count i = (List.range executions.length).count i := by
  refine reached_keeps (I := fun s => s.count i = _) (fun _ _ same step => (count_step step i).trans same)
    ?_ reached
  rw [← start_places executions c]
  simp [State.count, State.start]

theorem reached_once {p : Pool σ} {executions : List Execution} {c : Course σ} {s : State σ}
    (reached : p.Reaches (.start executions c) s) (i : Nat) : s.count i ≤ 1 := by
  rw [count_reached reached]
  exact List.nodup_iff_count_le_one.mp List.nodup_range i

theorem entering_alone {s : State σ} {x : Nat × Execution} {rest : List (Nat × Execution)}
    (once : s.count x.1 ≤ 1) (waiting : s.queue = x :: rest) :
    x.1 ∉ rest.map Prod.fst ∧ x.1 ∉ s.running.map Sleeper.place ∧ x.1 ∉ s.fates.map Prod.fst := by
  simp only [State.count, waiting, List.map_cons, List.count_cons_self] at once
  refine ⟨List.count_eq_zero.mp ?_, List.count_eq_zero.mp ?_, List.count_eq_zero.mp ?_⟩
  all_goals omega

theorem waking_alone {s : State σ} {before after : List Sleeper} {x : Sleeper}
    (once : s.count x.place ≤ 1) (asleep : s.running = before ++ x :: after) :
    x.place ∉ s.queue.map Prod.fst ∧ x.place ∉ (before ++ after).map Sleeper.place := by
  simp only [State.count, asleep, List.map_append, List.map_cons, List.count_append,
    List.count_cons_self] at once
  refine ⟨List.count_eq_zero.mp ?_, List.count_eq_zero.mp ?_⟩
  · omega
  · rw [List.map_append, List.count_append]
    omega

theorem fates_complete {p : Pool σ} {executions : List Execution} {c : Course σ} {s : State σ}
    (reached : p.Reaches (.start executions c) s) (isDone : s.IsDone) :
    (s.fates.map Prod.fst).Perm (List.range executions.length) := by
  rw [List.perm_iff_count]
  intro i
  simpa [State.count, isDone.queue, isDone.running, isDone.noticed] using count_reached reached i

def Fate.Befits (p : Pool σ) (e : Execution) : Fate → Prop
  | .finished r => r.execution = e
  | .crashed _ => p.recordsCrashes = false
  | .dropped _ => False
  | .skipped => True

def Wait.Fits (e : Execution) : Wait → Prop
  | .call nap => nap.Fits e
  | .answer r _ _ => r.execution = e

structure State.Orderly (p : Pool σ) (executions : List Execution) (s : State σ) : Prop where
  queued : ∀ x ∈ s.queue, executions[x.1]? = some x.2
  asleep : ∀ x ∈ s.running, executions[x.place]? = some x.execution ∧ x.wait.Fits x.execution
  broken : ∀ x, s.crash = some x → executions[x.place]? = some x.execution
  told : ∀ f ∈ s.fates, ∃ e, executions[f.1]? = some e ∧ f.2.Befits p e
  stopped : s.hasStopped = true →
    p.stopOnFailure = true ∧ ∃ f ∈ s.fates, ∃ r, f.2 = .finished r ∧ r.isSuccessful = false
  skipped : ∀ f ∈ s.fates, f.2 = .skipped → p.isStopped s = true

section Orderly

variable {p : Pool σ} {executions : List Execution} {s : State σ}

theorem conclude_orderly (orderly : s.Orderly p executions) {place : Nat} {fate : Fate}
    {e : Execution} (placed : executions[place]? = some e) (befits : fate.Befits p e)
    (ran : fate ≠ .skipped) : (s.conclude place fate).Orderly p executions := by
  refine ⟨orderly.queued, orderly.asleep, orderly.broken, ?_, ?_, ?_⟩
  · intro f member
    rcases List.mem_append.mp member with before | new
    · exact orderly.told f before
    · exact List.mem_singleton.mp new ▸ ⟨e, placed, befits⟩
  · intro stopped
    obtain ⟨policy, f, member, failed⟩ := orderly.stopped stopped
    exact ⟨policy, f, List.mem_append_left _ member, failed⟩
  · intro f member isSkipped
    rcases List.mem_append.mp member with before | new
    · exact orderly.skipped f before isSkipped
    · rw [List.mem_singleton.mp new] at isSkipped
      exact absurd isSkipped ran

theorem record_orderly (orderly : s.Orderly p executions) {place : Nat} {r : ExecutionResult}
    (placed : executions[place]? = some r.execution) : (p.record place r s).Orderly p executions := by
  have concluded : (s.conclude place (.finished r)).Orderly p executions :=
    conclude_orderly orderly placed rfl (by simp)
  refine ⟨concluded.queued, concluded.asleep, concluded.broken, concluded.told, ?_, ?_⟩
  · intro stopped
    simp only [record, Bool.or_eq_true, Bool.and_eq_true, Bool.not_eq_true'] at stopped
    rcases stopped with before | ⟨policy, failed⟩
    · exact concluded.stopped before
    · exact ⟨policy, (place, .finished r), List.mem_append_right _ (List.mem_singleton.mpr rfl),
        r, rfl, failed⟩
  · intro f member isSkipped
    exact (record_grows p place r s).keeps_stop
      ((concluded.skipped f member isSkipped : p.isStopped s = true))

theorem notice_orderly (orderly : s.Orderly p executions) {held : Option Crash}
    (placed : ∀ x, held = some x → executions[x.place]? = some x.execution) :
    (p.notice held s).Orderly p executions := by
  cases held with
  | none => exact orderly
  | some x =>
      rw [notice_crashed]
      split
      · exact record_orderly orderly (placed x rfl)
      · rename_i unrecorded
        exact conclude_orderly orderly (placed x rfl) (Bool.eq_false_iff.mpr unrecorded) (by simp)

theorem onward_orderly (orderly : s.Orderly p executions) {c : Course σ} (onward : s.course.Onward c) :
    ({ s with course := c } : State σ).Orderly p executions := by
  refine ⟨orderly.queued, orderly.asleep, orderly.broken, orderly.told, orderly.stopped, ?_⟩
  intro f member isSkipped
  have grows : s.Grows { s with course := c } := ⟨onward, id, List.prefix_refl _⟩
  exact grows.keeps_stop (orderly.skipped f member isSkipped)

theorem sleep_orderly (orderly : s.Orderly p executions) {place : Nat} {e : Execution} {wait : Wait}
    (placed : executions[place]? = some e) (fits : wait.Fits e) (delay : Span) :
    (s.sleep place e delay wait).Orderly p executions := by
  refine ⟨orderly.queued, ?_, orderly.broken, orderly.told, orderly.stopped, orderly.skipped⟩
  intro x member
  rcases List.mem_append.mp member with before | new
  · exact orderly.asleep x before
  · exact List.mem_singleton.mp new ▸ ⟨placed, fits⟩

theorem break_orderly (orderly : s.Orderly p executions) {place : Nat} {e : Execution}
    (placed : executions[place]? = some e) (panic : String) :
    ({ s with crash := some ⟨place, e, panic⟩ } : State σ).Orderly p executions := by
  refine ⟨orderly.queued, orderly.asleep, ?_, orderly.told, orderly.stopped, orderly.skipped⟩
  intro x same
  cases same
  exact placed

theorem inquire_orderly (orderly : s.Orderly p executions) {place : Nat} {e : Execution}
    {r : ExecutionResult} (placed : executions[place]? = some e) (own : r.execution = e) (asked : Nat)
    (heard : Finding) : (p.inquire place e r asked heard s).Orderly p executions := by
  obtain ⟨world, inquires⟩ := inquire_cases p place e r asked heard s
  generalize p.inquire place e r asked heard s = later at inquires
  have learnt := onward_orderly orderly (Course.silent_world s.course world).toOnward
  cases inquires with
  | waits delay found later =>
      have fits : (Wait.answer r found later).Fits e := own
      exact sleep_orderly learnt placed fits delay
  | records answer =>
      refine record_orderly learnt ?_
      rw [(judged_times r answer).2.2, own, placed]
  | breaks panic => exact break_orderly learnt placed panic

theorem follow_orderly (orderly : s.Orderly p executions) {place : Nat} {e : Execution}
    {standing : Standing} (placed : executions[place]? = some e) (fits : standing.Fits e) :
    (p.follow place e standing s).Orderly p executions := by
  cases standing with
  | waiting nap =>
      have same : (Wait.call nap).Fits e := fits
      exact sleep_orderly orderly placed same nap.promise.delay
  | finished r => exact inquire_orderly orderly placed fits 0 (.ok [])
  | dropped cause => exact False.elim fits
  | crashed panic => exact break_orderly orderly placed panic

theorem resume_orderly (orderly : s.Orderly p executions) {x : Sleeper}
    (placed : executions[x.place]? = some x.execution) (fits : x.wait.Fits x.execution) :
    (p.resume x s).Orderly p executions := by
  cases wait : x.wait with
  | call nap =>
      rw [wait] at fits
      rw [resume_call p wait]
      exact follow_orderly (onward_orderly orderly (silent_resume p.services nap s.course).toOnward)
        placed (resume_fits p.services fits _)
  | answer r heard asked =>
      rw [wait] at fits
      rw [resume_answer p wait]
      exact inquire_orderly orderly placed fits asked heard

theorem launch_orderly (orderly : s.Orderly p executions) {place : Nat} {e : Execution}
    (placed : executions[place]? = some e) : (p.launch place e s).Orderly p executions :=
  follow_orderly (onward_orderly orderly (onward_opening p e s.course)) placed
    (opening_fits p e s.course)

theorem fewer_orderly (orderly : s.Orderly p executions) {queue : List (Nat × Execution)}
    {running : List Sleeper} (fewer : ∀ x ∈ queue, x ∈ s.queue)
    (awake : ∀ x ∈ running, x ∈ s.running) :
    ({ s with queue := queue, running := running, crash := none } : State σ).Orderly p executions :=
  ⟨fun x member => orderly.queued x (fewer x member), fun x member => orderly.asleep x (awake x member),
    by simp, orderly.told, orderly.stopped, orderly.skipped⟩

theorem step_orderly {later : State σ} (orderly : s.Orderly p executions) (step : Step p s later) :
    later.Orderly p executions := by
  cases step with
  | @wake before after x t asleep due noticed =>
      have awake : ∀ y ∈ before ++ after, y ∈ s.running := by
        intro y member
        rw [asleep]
        rcases List.mem_append.mp member with remains | right
        · exact List.mem_append_left _ remains
        · exact List.mem_append_right _ (List.mem_cons_of_mem _ right)
      obtain ⟨placed, fits⟩ := orderly.asleep x (by rw [asleep]; simp)
      have remains := fewer_orderly orderly (fun _ member => member) awake
      rw [← noticed] at remains
      exact resume_orderly (onward_orderly remains (Course.silent_advance s.course t).toOnward) placed fits
  | @enter x rest waiting =>
      have placed := orderly.queued x (by rw [waiting]; simp)
      have fewer : ∀ y ∈ rest, y ∈ s.queue := fun y member => by rw [waiting]; simp [member]
      have remains := fewer_orderly orderly fewer (fun _ member => member)
      exact notice_orderly (launch_orderly remains placed) orderly.broken
  | turnAway waiting stopped =>
      refine notice_orderly (s := skip { s with crash := none } s.queue)
        ⟨by simp [skip], orderly.asleep, by simp [skip], ?_, ?_, ?_⟩ orderly.broken
      · intro f member
        rcases List.mem_append.mp member with before | new
        · exact orderly.told f before
        · obtain ⟨x, queued, same⟩ := List.mem_map.mp new
          exact same ▸ ⟨x.2, orderly.queued x queued, trivial⟩
      · intro itself
        obtain ⟨policy, f, member, failed⟩ := orderly.stopped itself
        exact ⟨policy, f, List.mem_append_left _ member, failed⟩
      · exact fun _ _ _ => stopped
  | attend x broken =>
      exact notice_orderly (fewer_orderly orderly (fun _ member => member) (fun _ member => member))
        orderly.broken

end Orderly

theorem start_orderly (p : Pool σ) (executions : List Execution) (c : Course σ) :
    (State.start executions c).Orderly p executions := by
  refine ⟨?_, by simp [State.start], by simp [State.start], by simp [State.start],
    by simp [State.start], by simp [State.start]⟩
  intro x member
  obtain ⟨y, found, same⟩ := List.mem_map.mp member
  exact same ▸ (List.mk_mem_zipIdx_iff_getElem?.mp found)

theorem reached_orderly {p : Pool σ} {executions : List Execution} {c : Course σ} {s : State σ}
    (reached : p.Reaches (.start executions c) s) : s.Orderly p executions :=
  reached_keeps (fun _ _ orderly step => step_orderly orderly step) (start_orderly p executions c)
    reached

end SqlBench.Pool
