import Mathlib.Logic.Relation
import SqlBench.Pool.Basic
import SqlBench.Proofs.Collector
import SqlBench.Proofs.Pool.Worker

set_option autoImplicit false

namespace SqlBench.Pool

variable {σ : Type}

def opening (p : Pool σ) (e : Execution) (c : Course σ) : Standing × Course σ :=
  work p.services (tasks p.services e) (.start e) (p.post (.executionStarted e) c)

theorem opening_fits (p : Pool σ) (e : Execution) (c : Course σ) : (p.opening e c).1.Fits e :=
  work_fits p.services e _ _ _ (start_fits p.services e)

theorem launch_opening (p : Pool σ) (place : Nat) (e : Execution) (s : State σ) :
    p.launch place e s =
      p.follow place e (p.opening e s.course).1 { s with course := (p.opening e s.course).2 } :=
  rfl

def wake (p : Pool σ) (x : Sleeper) (others : List Sleeper) (t : Moment) (s : State σ) : State σ :=
  p.resume x { s with running := others, course := s.course.advanceTo t }

-- The next one begins before an earlier breakdown is noticed.
def enter (p : Pool σ) (x : Nat × Execution) (rest : List (Nat × Execution)) (s : State σ) :
    State σ :=
  p.notice s.crash (p.launch x.1 x.2 { s with queue := rest, crash := none })

def turnAway (p : Pool σ) (s : State σ) : State σ :=
  p.notice s.crash (skip { s with crash := none } s.queue)

def attend (p : Pool σ) (s : State σ) : State σ :=
  p.notice s.crash { s with crash := none }

inductive Step (p : Pool σ) : State σ → State σ → Prop where
  | wake {s : State σ} {before after : List Sleeper} (x : Sleeper) (t : Moment)
      (asleep : s.running = before ++ x :: after) (due : x.wakes ≤ t) (noticed : s.crash = none) :
      Step p s (p.wake x (before ++ after) t s)
  | enter {s : State σ} {x : Nat × Execution} {rest : List (Nat × Execution)}
      (waiting : s.queue = x :: rest) (goesOn : p.isStopped s = false)
      (free : s.permitsInUse < p.permits) : Step p s (p.enter x rest s)
  | turnAway {s : State σ} (waiting : s.queue ≠ []) (stopped : p.isStopped s = true) :
      Step p s (p.turnAway s)
  | attend {s : State σ} (x : Crash) (broken : s.crash = some x) : Step p s (p.attend s)

abbrev Reaches (p : Pool σ) : State σ → State σ → Prop :=
  Relation.ReflTransGen (Step p)

structure State.Parked (p : Pool σ) (s : State σ) : Prop where
  noticed : s.crash = none
  granted : s.queue = [] ∨ p.permits ≤ s.permitsInUse

-- While somebody waits all permits are taken.
theorem State.Parked.exhausted {p : Pool σ} {s : State σ} (parked : s.Parked p) (waiting : s.queue ≠ []) :
    p.permits - s.permitsInUse = 0 :=
  Nat.sub_eq_zero_of_le (parked.granted.resolve_left waiting)

structure State.IsDone (s : State σ) : Prop where
  queue : s.queue = []
  running : s.running = []
  noticed : s.crash = none

def crashedResult (e : Execution) (panic : String) (now : Moment) : ExecutionResult :=
  ⟨e, now, now, 0, none, some (.illegal (.crashed e.label panic)), []⟩

theorem crash_recorded (e : Execution) (panic : String) (now : Moment) :
    recordedCrash e panic now = .ok (crashedResult e panic now) :=
  rfl

theorem notice_crashed (p : Pool σ) (x : Crash) (s : State σ) :
    p.notice (some x) s =
      if p.recordsCrashes then p.record x.place (crashedResult x.execution x.panic s.course.now) s
      else s.conclude x.place (.crashed x.panic) := by
  rw [notice, crash_recorded]

theorem notice_queue (p : Pool σ) (held : Option Crash) (s : State σ) :
    (p.notice held s).queue = s.queue := by
  cases held with
  | none => rfl
  | some x => by_cases records : p.recordsCrashes <;> simp [notice_crashed, records, record, State.conclude]

theorem notice_running (p : Pool σ) (held : Option Crash) (s : State σ) :
    (p.notice held s).running = s.running := by
  cases held with
  | none => rfl
  | some x => by_cases records : p.recordsCrashes <;> simp [notice_crashed, records, record, State.conclude]

theorem notice_crash (p : Pool σ) (held : Option Crash) (s : State σ) :
    (p.notice held s).crash = s.crash := by
  cases held with
  | none => rfl
  | some x => by_cases records : p.recordsCrashes <;> simp [notice_crashed, records, record, State.conclude]

theorem notice_permits (p : Pool σ) (held : Option Crash) (s : State σ) :
    (p.notice held s).permitsInUse = s.permitsInUse := by
  rw [State.permitsInUse, notice_running, State.permitsInUse]

theorem sleep_permits (s : State σ) (place : Nat) (e : Execution) (delay : Span) (wait : Wait) :
    (s.sleep place e delay wait).permitsInUse = s.permitsInUse + if wait.holdsPermit then 1 else 0 := by
  simp [State.sleep, State.permitsInUse, List.countP_cons]

def judged (r : ExecutionResult) : Except Failure (List Measurement) → ExecutionResult
  | .ok found => { r with measurements := found }
  | .error cause => r.fail cause

def judge (r : ExecutionResult) : Finding → Except String ExecutionResult
  | .ok found => .ok (judged r (.ok found))
  | .error (.failed cause) => .ok (judged r (.error cause))
  | .error (.crashed panic) => .error panic

theorem judged_times (r : ExecutionResult) (answer : Except Failure (List Measurement)) :
    (judged r answer).start = r.start ∧ (judged r answer).finish = r.finish ∧
      (judged r answer).execution = r.execution := by
  cases answer <;> exact ⟨rfl, rfl, rfl⟩

inductive Inquires (p : Pool σ) (place : Nat) (e : Execution) (r : ExecutionResult) (asked : Nat)
    (s : State σ) : State σ → Prop where
  | waits (delay : Span) (heard : Finding) (later : Nat) (takes : 0 < delay) (further : asked < later)
      (within : later ≤ p.services.collector.length) :
      Inquires p place e r asked s (s.sleep place e delay (.answer r heard later))
  | records (answer : Except Failure (List Measurement)) :
      Inquires p place e r asked s (p.record place (judged r answer) s)
  | breaks (panic : String) : Inquires p place e r asked s { s with crash := some ⟨place, e, panic⟩ }

theorem inquire_cases (p : Pool σ) (place : Nat) (e : Execution) (r : ExecutionResult) (asked : Nat)
    (heard : Finding) (s : State σ) :
    ∃ world, p.Inquires place e r asked { s with course := { s.course with world := world } }
      (p.inquire place e r asked heard s) := by
  refine ⟨(p.services.collector.goOn (.execution r) asked heard s.course.world).2, ?_⟩
  rw [inquire]
  dsimp only
  split
  · rename_i delay found later waits
    obtain ⟨takes, further, within⟩ := Collector.go_on_waits asked heard s.course.world waits
    exact .waits delay found later takes further within
  · rename_i found goes
    exact .records (.ok found)
  · rename_i cause goes
    exact .records (.error cause)
  · rename_i panic goes
    exact .breaks panic

theorem inquire_queue (p : Pool σ) (place : Nat) (e : Execution) (r : ExecutionResult) (asked : Nat)
    (heard : Finding) (s : State σ) : (p.inquire place e r asked heard s).queue = s.queue := by
  obtain ⟨world, inquires⟩ := inquire_cases p place e r asked heard s
  generalize p.inquire place e r asked heard s = later at inquires
  cases inquires <;> rfl

theorem inquire_permits (p : Pool σ) (place : Nat) (e : Execution) (r : ExecutionResult) (asked : Nat)
    (heard : Finding) (s : State σ) :
    (p.inquire place e r asked heard s).permitsInUse = s.permitsInUse := by
  obtain ⟨world, inquires⟩ := inquire_cases p place e r asked heard s
  generalize p.inquire place e r asked heard s = later at inquires
  cases inquires with
  | waits delay found later => exact sleep_permits _ place e delay (.answer r found later)
  | _ => rfl

theorem inquire_asleep {p : Pool σ} {place : Nat} {e : Execution} {r : ExecutionResult} {asked : Nat}
    {heard : Finding} {s : State σ} {x : Sleeper}
    (member : x ∈ (p.inquire place e r asked heard s).running) :
    x ∈ s.running ∨ ∃ delay found later, 0 < delay ∧
      x = ⟨place, e, s.course.now + delay, .answer r found later⟩ := by
  obtain ⟨world, inquires⟩ := inquire_cases p place e r asked heard s
  generalize p.inquire place e r asked heard s = after at inquires member
  cases inquires with
  | waits delay found later takes =>
      rcases List.mem_append.mp member with before | new
      · exact .inl before
      · exact .inr ⟨delay, found, later, takes, List.mem_singleton.mp new⟩
  | records answer => exact .inl member
  | breaks panic => exact .inl member

theorem inquire_stays (p : Pool σ) (place : Nat) (e : Execution) (r : ExecutionResult) (asked : Nat)
    (heard : Finding) (s : State σ) : s.running ⊆ (p.inquire place e r asked heard s).running := by
  obtain ⟨world, inquires⟩ := inquire_cases p place e r asked heard s
  generalize p.inquire place e r asked heard s = later at inquires
  cases inquires with
  | waits => exact List.subset_append_left _ _
  | _ => exact fun _ member => member

theorem follow_queue (p : Pool σ) (place : Nat) (e : Execution) (standing : Standing)
    (s : State σ) : (p.follow place e standing s).queue = s.queue := by
  cases standing with
  | finished r => exact inquire_queue p place e r 0 (.ok []) s
  | _ => rfl

theorem follow_permits (p : Pool σ) (place : Nat) (e : Execution) (standing : Standing) (s : State σ) :
    (p.follow place e standing s).permitsInUse ≤ s.permitsInUse + 1 := by
  cases standing with
  | waiting nap => exact Nat.le_of_eq (sleep_permits s place e nap.promise.delay (.call nap))
  | finished r => exact Nat.le_succ_of_le (Nat.le_of_eq (inquire_permits p place e r 0 (.ok []) s))
  | _ => exact Nat.le_succ _

theorem follow_stays (p : Pool σ) (place : Nat) (e : Execution) (standing : Standing) (s : State σ) :
    s.running ⊆ (p.follow place e standing s).running := by
  cases standing with
  | waiting nap => exact List.subset_append_left _ _
  | finished r => exact inquire_stays p place e r 0 (.ok []) s
  | _ => exact fun _ member => member

theorem follow_asleep {p : Pool σ} {place : Nat} {e : Execution} {standing : Standing} {s : State σ}
    {x : Sleeper} (member : x ∈ (p.follow place e standing s).running) :
    x ∈ s.running ∨
      (∃ nap, standing = .waiting nap ∧ x = ⟨place, e, s.course.now + nap.promise.delay, .call nap⟩) ∨
      ∃ r delay found later, standing = .finished r ∧ 0 < delay ∧
        x = ⟨place, e, s.course.now + delay, .answer r found later⟩ := by
  cases standing with
  | waiting nap =>
      rcases List.mem_append.mp member with before | new
      · exact .inl before
      · exact .inr (.inl ⟨nap, rfl, List.mem_singleton.mp new⟩)
  | finished r =>
      rcases inquire_asleep member with before | ⟨delay, found, later, takes, same⟩
      · exact .inl before
      · exact .inr (.inr ⟨r, delay, found, later, rfl, takes, same⟩)
  | _ => exact .inl member

theorem resume_call (p : Pool σ) {x : Sleeper} {nap : Nap} (calls : x.wait = .call nap) (s : State σ) :
    p.resume x s = p.follow x.place x.execution (nap.resume p.services s.course).1
      { s with course := (nap.resume p.services s.course).2 } := by
  simp only [resume, calls]

theorem resume_answer (p : Pool σ) {x : Sleeper} {r : ExecutionResult} {heard : Finding} {asked : Nat}
    (asks : x.wait = .answer r heard asked) (s : State σ) :
    p.resume x s = p.inquire x.place x.execution r asked heard s := by
  simp only [resume, asks]

theorem resume_queue (p : Pool σ) (x : Sleeper) (s : State σ) : (p.resume x s).queue = s.queue := by
  cases wait : x.wait with
  | call nap => rw [resume_call p wait, follow_queue]
  | answer r heard asked => rw [resume_answer p wait, inquire_queue]

theorem launch_queue (p : Pool σ) (place : Nat) (e : Execution) (s : State σ) :
    (p.launch place e s).queue = s.queue :=
  follow_queue p place e _ _

theorem enter_queue (p : Pool σ) (x : Nat × Execution) (rest : List (Nat × Execution))
    (s : State σ) : (p.enter x rest s).queue = rest := by
  rw [enter, notice_queue, launch_queue]

theorem wake_queue (p : Pool σ) (x : Sleeper) (others : List Sleeper) (t : Moment) (s : State σ) :
    (p.wake x others t s).queue = s.queue :=
  resume_queue p x _

theorem attend_nothing (p : Pool σ) (s : State σ) (noticed : s.crash = none) : p.attend s = s := by
  cases s
  cases noticed
  rfl

theorem grant_keeps (p : Pool σ) {I : State σ → Prop}
    (enters : ∀ s x rest, I s → s.queue = x :: rest → p.isStopped s = false →
      s.permitsInUse < p.permits → I (p.enter x rest s))
    (turnsAway : ∀ s, I s → s.queue ≠ [] → p.isStopped s = true → I (p.turnAway s))
    (attends : ∀ s x, I s → s.crash = some x → (s.queue = [] ∨ p.permits ≤ s.permitsInUse) →
      I (p.attend s))
    (queue : List (Nat × Execution)) (s : State σ) (waiting : s.queue = queue) (holds : I s) :
    I (p.grant queue s) := by
  -- What is left to do when no more permits are given out.
  have rests : ∀ s : State σ, I s → (s.queue = [] ∨ p.permits ≤ s.permitsInUse) →
      I (p.attend s) := by
    intro s holds granted
    cases broken : s.crash with
    | none => exact (attend_nothing p s broken).symm ▸ holds
    | some x => exact attends s x holds broken granted
  induction queue generalizing s with
  | nil => simpa only [grant, attend, waiting] using rests s holds (.inl waiting)
  | cons x rest ih =>
      rw [grant]
      split
      · rename_i stopped
        simpa only [turnAway, waiting] using turnsAway s holds (by rw [waiting]; simp) stopped
      · rename_i goesOn
        split
        · rename_i free
          exact ih _ (enter_queue p x rest s)
            (enters s x rest holds waiting (Bool.eq_false_iff.mpr goesOn) free)
        · rename_i full
          simpa only [attend, waiting] using rests s holds (.inr (Nat.le_of_not_lt full))

theorem grant_parks (p : Pool σ) (queue : List (Nat × Execution)) (s : State σ) :
    (p.grant queue s).Parked p := by
  induction queue generalizing s with
  | nil => exact ⟨by rw [grant, notice_crash], .inl (by rw [grant, notice_queue])⟩
  | cons x rest ih =>
      rw [grant]
      split
      · exact ⟨by rw [notice_crash, skip], .inl (by rw [notice_queue, skip])⟩
      · split
        · exact ih _
        · rename_i full
          exact ⟨by rw [notice_crash], .inr (by rw [notice_permits]; exact Nat.le_of_not_lt full)⟩

theorem next_splits {running others : List Sleeper} {x : Sleeper}
    (found : next? running = some (x, others)) :
    ∃ before after, running = before ++ x :: after ∧ others = before ++ after := by
  induction running generalizing x others with
  | nil => cases found
  | cons a rest ih =>
      rw [next?] at found
      split at found
      · rename_i empty
        cases found
        have nobody : rest = [] := by
          cases rest with
          | nil => rfl
          | cons b more =>
              rw [next?] at empty
              split at empty
              · cases empty
              · split at empty <;> cases empty
        exact ⟨[], [], by rw [nobody]; rfl, rfl⟩
      · rename_i b later earliest
        split at found
        · cases found
          exact ⟨[], rest, rfl, rfl⟩
        · cases found
          obtain ⟨before, after, whole, remains⟩ := ih earliest
          exact ⟨a :: before, after, by rw [whole]; rfl, by rw [remains]; rfl⟩

theorem next_perm {running others : List Sleeper} {x : Sleeper}
    (found : next? running = some (x, others)) : running.Perm (x :: others) := by
  obtain ⟨before, after, whole, remains⟩ := next_splits found
  rw [whole, remains]
  exact List.perm_middle

theorem next_none {running : List Sleeper} (nobody : next? running = none) : running = [] := by
  cases running with
  | nil => rfl
  | cons a rest =>
      rw [next?] at nobody
      split at nobody
      · cases nobody
      · split at nobody <;> cases nobody

theorem turn_idle (p : Pool σ) {s : State σ} (idle : next? s.running = none) : p.turn s = s := by
  simp only [turn, idle]

theorem turn_wakes (p : Pool σ) {s : State σ} {x : Sleeper} {others : List Sleeper}
    (found : next? s.running = some (x, others)) :
    p.turn s = p.grant (p.wake x others x.wakes s).queue (p.wake x others x.wakes s) := by
  rw [wake_queue]
  simp only [turn, found]
  rfl

theorem turn_keeps (p : Pool σ) {I : State σ → Prop}
    (wakes : ∀ s x others, I s → s.Parked p → next? s.running = some (x, others) →
      I (p.wake x others x.wakes s))
    (grants : ∀ s, I s → I (p.grant s.queue s)) {s : State σ} (parked : s.Parked p) (holds : I s) :
    I (p.turn s) ∧ (p.turn s).Parked p := by
  cases found : next? s.running with
  | none =>
      have stays := turn_idle p found
      exact ⟨stays.symm ▸ holds, stays.symm ▸ parked⟩
  | some chosen =>
      obtain ⟨x, others⟩ := chosen
      rw [turn_wakes p found]
      exact ⟨grants _ (wakes s x others holds parked found), grant_parks p _ _⟩

theorem turns_keep (p : Pool σ) {I : State σ → Prop}
    (wakes : ∀ s x others, I s → s.Parked p → next? s.running = some (x, others) →
      I (p.wake x others x.wakes s))
    (grants : ∀ s, I s → I (p.grant s.queue s)) (n : Nat) {s : State σ} (parked : s.Parked p)
    (holds : I s) : I (p.turns n s) ∧ (p.turns n s).Parked p := by
  induction n generalizing s with
  | zero => exact ⟨holds, parked⟩
  | succ n ih =>
      have later := turn_keeps p wakes grants parked holds
      exact ih later.2 later.1

theorem run_keeps (p : Pool σ) {I : State σ → Prop}
    (enters : ∀ s x rest, I s → s.queue = x :: rest → p.isStopped s = false →
      s.permitsInUse < p.permits → I (p.enter x rest s))
    (turnsAway : ∀ s, I s → s.queue ≠ [] → p.isStopped s = true → I (p.turnAway s))
    (attends : ∀ s x, I s → s.crash = some x → (s.queue = [] ∨ p.permits ≤ s.permitsInUse) →
      I (p.attend s))
    (wakes : ∀ s x others, I s → s.Parked p → next? s.running = some (x, others) →
      I (p.wake x others x.wakes s))
    (executions : List Execution) (c : Course σ) (starts : I (.start executions c)) :
    I (p.run executions c) ∧ (p.run executions c).Parked p := by
  have grants : ∀ s, I s → I (p.grant s.queue s) :=
    fun s holds => grant_keeps p enters turnsAway attends s.queue s rfl holds
  exact turns_keep p wakes grants _ (grant_parks p _ _) (grants _ starts)

theorem grant_reached (p : Pool σ) {first s : State σ} (reached : p.Reaches first s) :
    p.Reaches first (p.grant s.queue s) := by
  refine grant_keeps p ?_ ?_ ?_ s.queue s rfl reached
  · exact fun s x rest reached waiting goesOn free => reached.tail (.enter waiting goesOn free)
  · exact fun s reached waiting stopped => reached.tail (.turnAway waiting stopped)
  · exact fun s x reached broken _ => reached.tail (.attend x broken)

theorem wake_reached {p : Pool σ} {first s : State σ} (reached : p.Reaches first s)
    (parked : s.Parked p) {x : Sleeper} {others : List Sleeper}
    (found : next? s.running = some (x, others)) : p.Reaches first (p.wake x others x.wakes s) := by
  obtain ⟨before, after, whole, remains⟩ := next_splits found
  exact reached.tail (remains ▸ .wake x x.wakes whole (Nat.le_refl _) parked.noticed)

theorem turns_reached (p : Pool σ) (n : Nat) {first s : State σ} (reached : p.Reaches first s)
    (parked : s.Parked p) : p.Reaches first (p.turns n s) ∧ (p.turns n s).Parked p :=
  turns_keep p (fun _ _ _ reached parked found => wake_reached reached parked found)
    (fun _ reached => grant_reached p reached) n parked reached

theorem run_reached (p : Pool σ) (executions : List Execution) (c : Course σ) :
    p.Reaches (.start executions c) (p.run executions c) ∧ (p.run executions c).Parked p :=
  turns_reached p _ (grant_reached p .refl) (grant_parks p _ _)

theorem reached_keeps {p : Pool σ} {I : State σ → Prop}
    (steps : ∀ s later, I s → Step p s later → I later) {s later : State σ} (holds : I s)
    (reached : p.Reaches s later) : I later := by
  induction reached with
  | refl => exact holds
  | tail _ step ih => exact steps _ _ ih step

end SqlBench.Pool
