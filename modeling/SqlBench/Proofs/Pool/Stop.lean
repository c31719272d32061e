import SqlBench.Proofs.Pool.Progress

set_option autoImplicit false

namespace SqlBench.Pool

variable {σ : Type}

def begun? : Moment × Event → Option (Moment × Execution)
  | (t, .executionStarted e) => some (t, e)
  | _ => none

def starts (c : Course σ) : List (Moment × Execution) :=
  c.events.filterMap begun?

theorem starts_silent {c later : Course σ} (silent : c.Silent later) : starts later = starts c := by
  rw [starts, silent.events, starts]

theorem starts_finished (p : Pool σ) (r : ExecutionResult) (c : Course σ) :
    starts (p.post (.executionFinished r) c) = starts c := by
  rw [post]
  split
  · rfl
  · rw [starts, Course.events_post, List.filterMap_append]
    simp [starts, begun?]

theorem starts_notice (p : Pool σ) (held : Option Crash) (s : State σ) :
    starts (p.notice held s).course = starts s.course := by
  cases held with
  | none => rfl
  | some x =>
      rw [notice_crashed]
      split
      · exact starts_finished p _ s.course
      · rfl

theorem starts_inquire (p : Pool σ) (place : Nat) (e : Execution) (r : ExecutionResult) (asked : Nat)
    (heard : Finding) (s : State σ) :
    starts (p.inquire place e r asked heard s).course = starts s.course := by
  obtain ⟨world, inquires⟩ := inquire_cases p place e r asked heard s
  generalize p.inquire place e r asked heard s = later at inquires
  cases inquires with
  | records answer => exact starts_finished p (judged r answer) _
  | _ => rfl

theorem starts_follow (p : Pool σ) (place : Nat) (e : Execution) (standing : Standing)
    (s : State σ) : starts (p.follow place e standing s).course = starts s.course := by
  cases standing with
  | finished r => exact starts_inquire p place e r 0 (.ok []) s
  | _ => rfl

theorem starts_wake (p : Pool σ) (x : Sleeper) (others : List Sleeper) (t : Moment) (s : State σ) :
    starts (p.wake x others t s).course = starts s.course := by
  cases wait : x.wait with
  | call nap =>
      rw [wake, resume_call p wait, starts_follow]
      exact starts_silent (silent_resume_at p.services nap s.course t)
  | answer r heard asked =>
      rw [wake, resume_answer p wait, starts_inquire]
      rfl

theorem starts_opening (p : Pool σ) (e : Execution) (c : Course σ) :
    starts (p.opening e c).2 = starts c ++ if p.isQuiet then [] else [(c.now, e)] := by
  have worked := starts_silent (silent_work p.services (tasks p.services e) (.start e)
    (p.post (.executionStarted e) c))
  rw [opening, worked, post]
  split
  · exact (List.append_nil _).symm
  · rw [starts, Course.events_post, List.filterMap_append]
    rfl

theorem starts_enter (p : Pool σ) (x : Nat × Execution) (rest : List (Nat × Execution))
    (s : State σ) : starts (p.enter x rest s).course =
      starts s.course ++ if p.isQuiet then [] else [(s.course.now, x.2)] := by
  rw [enter, starts_notice, launch_opening, starts_follow]
  exact starts_opening p x.2 s.course

theorem step_starts {p : Pool σ} {s later : State σ} (step : Step p s later) :
    starts later.course = starts s.course ∨
      p.isStopped s = false ∧ ∃ e, starts later.course <+: starts s.course ++ [(s.course.now, e)] := by
  cases step with
  | wake x t => exact .inl (starts_wake p x _ t s)
  | @enter x rest waiting goesOn =>
      refine .inr ⟨goesOn, x.2, ?_⟩
      rw [starts_enter]
      split
      · exact (List.prefix_append_right_inj _).mpr List.nil_prefix
      · exact List.prefix_refl _
  | turnAway => exact .inl (starts_notice p s.crash _)
  | attend => exact .inl (starts_notice p s.crash _)

theorem step_turns_away {p : Pool σ} {s later : State σ} (step : Step p s later)
    (stopped : p.isStopped s = true) {x : Nat × Execution} (waiting : x ∈ s.queue) :
    x ∈ later.queue ∨ (x.1, Fate.skipped) ∈ later.fates := by
  cases step with
  | wake => exact .inl (by rwa [wake_queue])
  | enter _ goesOn =>
      rw [stopped] at goesOn
      cases goesOn
  | turnAway =>
      have told : (x.1, Fate.skipped) ∈ (skip { s with crash := none } s.queue).fates :=
        List.mem_append_right _ (List.mem_map.mpr ⟨x, waiting, rfl⟩)
      exact .inr ((notice_grows p s.crash _).fates.subset told)
  | attend => exact .inl (by rwa [attend, notice_queue])

theorem nobody_begins_behind_stop {p : Pool σ} {s later : State σ} (stopped : p.isStopped s = true)
    (reached : p.Reaches s later) :
    starts later.course = starts s.course ∧
      ∀ x ∈ s.queue, x ∈ later.queue ∨ (x.1, Fate.skipped) ∈ later.fates := by
  induction reached with
  | refl => exact ⟨rfl, fun x waiting => .inl waiting⟩
  | @tail mid later before step ih =>
      obtain ⟨same, kept⟩ := ih
      have still := (reaches_grows before).keeps_stop stopped
      refine ⟨?_, fun x waiting => ?_⟩
      · rcases step_starts step with nobody | ⟨goesOn, -⟩
        · exact nobody.trans same
        · rw [still] at goesOn
          cases goesOn
      · rcases kept x waiting with queued | told
        · exact step_turns_away step still queued
        · exact .inr ((step_grows step).fates.subset told)

theorem running_before {p : Pool σ} {s : State σ} (goesOn : p.isStopped s = false) :
    (∀ t, s.course.stop.moment = some t → s.course.now < t) ∧
      ∀ t, p.deadline = some t → s.course.now < t := by
  simp only [isStopped, isInterrupted, isOver, Course.isStopped, StopRequest.holds,
    Bool.or_eq_false_iff] at goesOn
  obtain ⟨-, ⟨-, asked⟩, past⟩ := goesOn
  refine ⟨fun t moment => ?_, fun t deadline => ?_⟩
  · simpa [moment] using asked
  · simpa [deadline] using past

theorem begun_in_time {p : Pool σ} {executions : List Execution} {c : Course σ} {s : State σ}
    (reached : p.Reaches (.start executions c) s) :
    ∀ begun ∈ starts s.course, begun ∈ starts c ∨ begun.1 ≤ s.course.now ∧
      (∀ t, c.stop.moment = some t → begun.1 < t) ∧ ∀ t, p.deadline = some t → begun.1 < t := by
  induction reached with
  | refl => exact fun begun member => .inl member
  | @tail mid later before step ih =>
      have onward := (step_grows step).course.now
      have earlier : ∀ begun ∈ starts mid.course, begun ∈ starts c ∨ begun.1 ≤ later.course.now ∧
          (∀ t, c.stop.moment = some t → begun.1 < t) ∧ ∀ t, p.deadline = some t → begun.1 < t := by
        intro begun member
        rcases ih begun member with held | ⟨past, inTime⟩
        · exact .inl held
        · exact .inr ⟨Nat.le_trans past onward, inTime⟩
      intro begun member
      rcases step_starts step with nobody | ⟨goesOn, e, more⟩
      · exact earlier begun (nobody ▸ member)
      · rcases List.mem_append.mp (more.subset member) with old | new
        · exact earlier begun old
        · have moment : mid.course.stop.moment = c.stop.moment := (reaches_grows before).course.moment
          obtain ⟨asked, past⟩ := running_before goesOn
          rw [moment] at asked
          rw [List.mem_singleton.mp new]
          exact .inr ⟨onward, asked, past⟩

end SqlBench.Pool
