import Mathlib.Algebra.Ring.Nat
import SqlBench.Proofs.Pool.Step

set_option autoImplicit false

namespace SqlBench.Pool

variable {σ : Type}

structure State.Grows (s later : State σ) : Prop where
  course : s.course.Onward later.course
  stopped : s.hasStopped = true → later.hasStopped = true
  fates : s.fates <+: later.fates

theorem State.Grows.refl (s : State σ) : s.Grows s :=
  ⟨.refl _, id, List.prefix_refl _⟩

theorem State.Grows.trans {a b c : State σ} (early : a.Grows b) (late : b.Grows c) : a.Grows c :=
  ⟨early.course.trans late.course, fun stopped => late.stopped (early.stopped stopped),
    early.fates.trans late.fates⟩

theorem State.Grows.keeps_stop {p : Pool σ} {s later : State σ} (grows : s.Grows later)
    (stopped : p.isStopped s = true) : p.isStopped later = true := by
  simp only [isStopped, isInterrupted, isOver, Bool.or_eq_true, Option.any_eq_true,
    decide_eq_true_eq] at stopped ⊢
  rcases stopped with itself | asked | ⟨t, deadline, due⟩
  · exact .inl (grows.stopped itself)
  · exact .inr (.inl (grows.course.keeps_stop asked))
  · exact .inr (.inr ⟨t, deadline, Nat.le_trans due grows.course.now⟩)

theorem onward_post (p : Pool σ) (event : Event) (c : Course σ) : c.Onward (p.post event c) := by
  rw [post]
  split
  · exact .refl c
  · exact Course.onward_post c event

theorem record_grows (p : Pool σ) (place : Nat) (r : ExecutionResult) (s : State σ) :
    s.Grows (p.record place r s) :=
  ⟨onward_post p _ _, fun stopped => by simp [record, stopped], List.prefix_append _ _⟩

theorem notice_grows (p : Pool σ) (held : Option Crash) (s : State σ) :
    s.Grows (p.notice held s) := by
  cases held with
  | none => exact .refl s
  | some x =>
      rw [notice_crashed]
      split
      · exact record_grows p x.place _ s
      · exact ⟨.refl _, id, List.prefix_append _ _⟩

-- What is posted, and what providers learn, leaves the clock and the stop alone.
def Abreast (c later : Course σ) : Prop :=
  later.now = c.now ∧ later.tick = c.tick ∧ later.stop = c.stop

theorem abreast_post (p : Pool σ) (event : Event) (c : Course σ) : Abreast c (p.post event c) := by
  rw [post]
  split <;> exact ⟨rfl, rfl, rfl⟩

theorem abreast_inquire (p : Pool σ) (place : Nat) (e : Execution) (r : ExecutionResult) (asked : Nat)
    (heard : Finding) (s : State σ) : Abreast s.course (p.inquire place e r asked heard s).course := by
  obtain ⟨world, inquires⟩ := inquire_cases p place e r asked heard s
  generalize p.inquire place e r asked heard s = later at inquires
  cases inquires with
  | waits => exact ⟨rfl, rfl, rfl⟩
  | records answer => exact abreast_post p (.executionFinished (judged r answer)) _
  | breaks panic => exact ⟨rfl, rfl, rfl⟩

theorem abreast_follow (p : Pool σ) (place : Nat) (e : Execution) (standing : Standing)
    (s : State σ) : Abreast s.course (p.follow place e standing s).course := by
  cases standing with
  | finished r => exact abreast_inquire p place e r 0 (.ok []) s
  | _ => exact ⟨rfl, rfl, rfl⟩

theorem abreast_notice (p : Pool σ) (held : Option Crash) (s : State σ) :
    Abreast s.course (p.notice held s).course := by
  cases held with
  | none => exact ⟨rfl, rfl, rfl⟩
  | some x =>
      rw [notice_crashed]
      split
      · exact abreast_post p _ s.course
      · exact ⟨rfl, rfl, rfl⟩

theorem inquire_grows (p : Pool σ) (place : Nat) (e : Execution) (r : ExecutionResult) (asked : Nat)
    (heard : Finding) (s : State σ) : s.Grows (p.inquire place e r asked heard s) := by
  obtain ⟨world, inquires⟩ := inquire_cases p place e r asked heard s
  generalize p.inquire place e r asked heard s = later at inquires
  have learnt := (Course.silent_world s.course world).toOnward
  cases inquires with
  | waits => exact ⟨learnt, id, List.prefix_refl _⟩
  | records answer =>
      have recorded := record_grows p place (judged r answer)
        { s with course := { s.course with world := world } }
      exact ⟨learnt.trans recorded.course, recorded.stopped, recorded.fates⟩
  | breaks panic => exact ⟨learnt, id, List.prefix_refl _⟩

theorem follow_grows (p : Pool σ) (place : Nat) (e : Execution) (standing : Standing)
    (s : State σ) : s.Grows (p.follow place e standing s) := by
  cases standing with
  | waiting nap => exact ⟨.refl _, id, List.prefix_refl _⟩
  | finished r => exact inquire_grows p place e r 0 (.ok []) s
  | dropped cause => exact ⟨.refl _, id, List.prefix_append _ _⟩
  | crashed panic => exact ⟨.refl _, id, List.prefix_refl _⟩

theorem onward_opening (p : Pool σ) (e : Execution) (c : Course σ) : c.Onward (p.opening e c).2 :=
  (onward_post p (.executionStarted e) c).trans
    (silent_work p.services (tasks p.services e) (.start e) (p.post (.executionStarted e) c)).toOnward

theorem launch_grows (p : Pool σ) (place : Nat) (e : Execution) (s : State σ) :
    s.Grows (p.launch place e s) := by
  have followed := follow_grows p place e (p.opening e s.course).1
    { s with course := (p.opening e s.course).2 }
  exact ⟨(onward_opening p e s.course).trans followed.course, followed.stopped, followed.fates⟩

theorem resume_grows (p : Pool σ) (x : Sleeper) (s : State σ) : s.Grows (p.resume x s) := by
  cases wait : x.wait with
  | call nap =>
      rw [resume_call p wait]
      have resumed := (silent_resume p.services nap s.course).toOnward
      have followed := follow_grows p x.place x.execution (nap.resume p.services s.course).1
        { s with course := (nap.resume p.services s.course).2 }
      exact ⟨resumed.trans followed.course, followed.stopped, followed.fates⟩
  | answer r heard asked =>
      rw [resume_answer p wait]
      exact inquire_grows p x.place x.execution r asked heard s

theorem wake_grows (p : Pool σ) (x : Sleeper) (others : List Sleeper) (t : Moment) (s : State σ) :
    s.Grows (p.wake x others t s) := by
  have woken : s.Grows { s with running := others, course := s.course.advanceTo t } :=
    ⟨(Course.silent_advance s.course t).toOnward, id, List.prefix_refl _⟩
  exact woken.trans (resume_grows p x _)

theorem step_grows {p : Pool σ} {s later : State σ} (step : Step p s later) : s.Grows later := by
  cases step with
  | wake x t => exact wake_grows p x _ t s
  | @enter x rest =>
      have launched := launch_grows p x.1 x.2 { s with queue := rest, crash := none }
      exact State.Grows.trans ⟨launched.course, launched.stopped, launched.fates⟩ (notice_grows p _ _)
  | turnAway =>
      have skipped : s.Grows (skip { s with crash := none } s.queue) :=
        ⟨.refl _, id, List.prefix_append _ _⟩
      exact skipped.trans (notice_grows p _ _)
  | attend x =>
      have aside : s.Grows { s with crash := none } := ⟨.refl _, id, List.prefix_refl _⟩
      exact aside.trans (notice_grows p _ _)

theorem reaches_grows {p : Pool σ} {s later : State σ} (reached : p.Reaches s later) :
    s.Grows later :=
  reached_keeps (fun _ _ grown step => grown.trans (step_grows step)) (.refl s) reached

-- How often an execution may still wake. It is asked about once for each provider.
def Wait.load (p : Pool σ) : Wait → Nat
  | .call nap => nap.rest.length + 1 + p.services.collector.length
  | .answer _ _ asked => p.services.collector.length - asked + 1

theorem Wait.load_positive (p : Pool σ) (wait : Wait) : 0 < wait.load p := by
  cases wait <;> simp only [Wait.load] <;> omega

def State.load (p : Pool σ) (s : State σ) : Nat :=
  (s.running.map fun x => x.wait.load p).sum +
    (s.queue.map fun x => (tasks p.services x.2).length + p.services.collector.length + 1).sum

theorem load_sleep (p : Pool σ) (s : State σ) (place : Nat) (e : Execution) (delay : Span)
    (wait : Wait) : (s.sleep place e delay wait).load p = s.load p + wait.load p := by
  simp only [State.sleep, State.load, List.map_append, List.map_cons, List.map_nil, List.sum_append,
    List.sum_cons, List.sum_nil]
  omega

theorem load_notice (p : Pool σ) (held : Option Crash) (s : State σ) :
    (p.notice held s).load p = s.load p := by
  rw [State.load, notice_running, notice_queue, State.load]

theorem load_inquire (p : Pool σ) (place : Nat) (e : Execution) (r : ExecutionResult) (asked : Nat)
    (heard : Finding) (s : State σ) :
    (p.inquire place e r asked heard s).load p ≤ s.load p + (p.services.collector.length - asked) := by
  obtain ⟨world, inquires⟩ := inquire_cases p place e r asked heard s
  generalize p.inquire place e r asked heard s = after at inquires
  cases inquires with
  | waits delay found later takes further within =>
      rw [load_sleep]
      simp only [Wait.load, State.load]
      omega
  | _ => exact Nat.le_add_right _ _

theorem load_follow (p : Pool σ) (place : Nat) (e : Execution) (standing : Standing)
    (s : State σ) : (p.follow place e standing s).load p ≤
      s.load p + standing.load + p.services.collector.length := by
  cases standing with
  | waiting nap =>
      rw [follow, load_sleep]
      simp only [Wait.load, Standing.load]
      omega
  | finished r => exact load_inquire p place e r 0 (.ok []) s
  | _ => exact Nat.le_add_right _ _

theorem load_enter (p : Pool σ) {x : Nat × Execution} {rest : List (Nat × Execution)} {s : State σ}
    (waiting : s.queue = x :: rest) : (p.enter x rest s).load p < s.load p := by
  rw [enter, load_notice, launch_opening]
  have followed := load_follow p x.1 x.2 (p.opening x.2 s.course).1
    { s with queue := rest, crash := none, course := (p.opening x.2 s.course).2 }
  have begun : (p.opening x.2 s.course).1.load ≤ (tasks p.services x.2).length :=
    work_load p.services _ _ _
  simp only [State.load, waiting, List.map_cons, List.sum_cons] at followed ⊢
  omega

theorem load_resume (p : Pool σ) (x : Sleeper) (s : State σ) :
    (p.resume x s).load p < s.load p + x.wait.load p := by
  cases wait : x.wait with
  | call nap =>
      rw [resume_call p wait]
      have followed := load_follow p x.place x.execution (nap.resume p.services s.course).1
        { s with course := (nap.resume p.services s.course).2 }
      have resumed := resume_load p.services nap s.course
      simp only [Wait.load, State.load] at followed ⊢
      omega
  | answer r heard asked =>
      rw [resume_answer p wait]
      have asks := load_inquire p x.place x.execution r asked heard s
      simp only [Wait.load]
      omega

theorem load_wake (p : Pool σ) {s : State σ} {before after : List Sleeper} {x : Sleeper}
    (t : Moment) (asleep : s.running = before ++ x :: after) :
    (p.wake x (before ++ after) t s).load p < s.load p := by
  have resumed := load_resume p x { s with running := before ++ after, course := s.course.advanceTo t }
  simp only [State.load, asleep, List.map_append, List.map_cons, List.sum_append, List.sum_cons, wake]
    at resumed ⊢
  omega

theorem load_turn_away (p : Pool σ) {s : State σ} (waiting : s.queue ≠ []) :
    (p.turnAway s).load p < s.load p := by
  rw [turnAway, load_notice]
  cases queue : s.queue with
  | nil => exact absurd queue waiting
  | cons x rest =>
      simp only [State.load, skip, queue, List.map_nil, List.sum_nil, List.map_cons, List.sum_cons]
      omega

theorem load_attend (p : Pool σ) (s : State σ) : (p.attend s).load p = s.load p := by
  rw [attend, load_notice]
  rfl

-- A breakdown that nobody has noticed is worth one step, and a task two, since it may break down.
def State.measure (p : Pool σ) (s : State σ) : Nat :=
  2 * s.load p + s.crash.toList.length

theorem measure_le (p : Pool σ) (s : State σ) : s.measure p ≤ 2 * s.load p + 1 := by
  cases crash : s.crash <;> simp [State.measure, crash]

theorem step_measure {p : Pool σ} {s later : State σ} (step : Step p s later) :
    later.measure p < s.measure p := by
  have bound := measure_le p later
  cases step with
  | wake x t asleep =>
      have less := load_wake p t asleep
      simp only [State.measure] at bound ⊢
      omega
  | enter waiting =>
      have less := load_enter p waiting
      simp only [State.measure] at bound ⊢
      omega
  | turnAway waiting =>
      have less := load_turn_away p waiting
      simp only [State.measure] at bound ⊢
      omega
  | attend x broken =>
      have noticed : (p.attend s).crash = none := notice_crash p s.crash _
      simp [State.measure, load_attend, noticed, broken]

theorem steps_end (p : Pool σ) : WellFounded fun later s : State σ => Step p s later :=
  Subrelation.wf step_measure (measure (State.measure p)).wf

theorem permits_positive (p : Pool σ) : 0 < p.permits :=
  Nat.lt_of_lt_of_le Nat.zero_lt_one (Nat.le_max_right _ _)

theorem load_grant (p : Pool σ) (s : State σ) : (p.grant s.queue s).load p ≤ s.load p := by
  refine grant_keeps p (I := fun later => later.load p ≤ s.load p) ?_ ?_ ?_ s.queue s rfl (Nat.le_refl _)
  · exact fun now x rest less waiting _ _ => Nat.le_trans (Nat.le_of_lt (load_enter p waiting)) less
  · exact fun now less waiting _ => Nat.le_trans (Nat.le_of_lt (load_turn_away p waiting)) less
  · exact fun now x less _ _ => Nat.le_trans (Nat.le_of_eq (load_attend p now)) less

theorem turn_load (p : Pool σ) (s : State σ) :
    (p.turn s).running = [] ∨ (p.turn s).load p < s.load p := by
  cases found : next? s.running with
  | none => exact .inl ((turn_idle p found).symm ▸ next_none found)
  | some chosen =>
      obtain ⟨x, others⟩ := chosen
      obtain ⟨before, after, whole, remains⟩ := next_splits found
      rw [turn_wakes p found, remains]
      exact .inr (Nat.lt_of_le_of_lt (load_grant p _) (load_wake p x.wakes whole))

theorem turns_idle (p : Pool σ) (n : Nat) {s : State σ} (idle : s.running = []) :
    p.turns n s = s := by
  induction n with
  | zero => rfl
  | succ n ih =>
      have stays : p.turn s = s := by
        simp only [turn, idle, next?]
      rw [turns, stays, ih]

theorem turns_exhaust (p : Pool σ) (n : Nat) (s : State σ) (enough : s.load p ≤ n) :
    (p.turns n s).running = [] := by
  induction n generalizing s with
  | zero =>
      cases running : s.running with
      | nil => exact running
      | cons x rest =>
          have awake := x.wait.load_positive p
          simp only [State.load, running, List.map_cons, List.sum_cons] at enough
          omega
  | succ n ih =>
      rw [turns]
      rcases turn_load p s with idle | less
      · rw [turns_idle p n idle, idle]
      · exact ih _ (by omega)

def burden (p : Pool σ) (e : Execution) : Nat :=
  (tasks p.services e).length + p.services.collector.length + 1

theorem workload_sum (p : Pool σ) (executions : List Execution) :
    p.workload executions = (executions.map p.burden).sum := by
  have folded : ∀ n, executions.foldl
      (fun n e => n + (tasks p.services e).length + p.services.collector.length + 1) n =
        n + (executions.map p.burden).sum := by
    induction executions with
    | nil => exact fun n => rfl
    | cons e rest ih =>
        intro n
        rw [List.foldl_cons, ih, List.map_cons, List.sum_cons, burden]
        omega
  rw [workload, folded, Nat.zero_add]

theorem start_load (p : Pool σ) (executions : List Execution) (c : Course σ) :
    (State.start executions c).load p = p.workload executions := by
  have placed : (executions.zipIdx.map fun x => p.burden x.1) = executions.map p.burden := by
    rw [← Function.comp_def p.burden Prod.fst, ← List.map_map, List.zipIdx_map_fst]
  rw [workload_sum, ← placed]
  simp [State.load, State.start, Function.comp_def, burden]

theorem run_done (p : Pool σ) (executions : List Execution) (c : Course σ) :
    (p.run executions c).IsDone := by
  have parked := (run_reached p executions c).2
  have idle : (p.run executions c).running = [] := by
    apply turns_exhaust
    rw [← start_load p executions c]
    exact load_grant p _
  refine ⟨parked.granted.resolve_right ?_, idle, parked.noticed⟩
  rw [State.permitsInUse, idle]
  exact Nat.not_le_of_lt (permits_positive p)

end SqlBench.Pool
