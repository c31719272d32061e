import Mathlib.Algebra.Ring.Nat
import SqlBench.Pool.Basic
import SqlBench.Proofs.Pool.Script

set_option autoImplicit false

namespace SqlBench.Pool

variable {σ : Type}

-- What a span is spent in: the hooks before, connecting and the statement, or the hooks behind.
inductive Leg where
  | before
  | timed
  | after
  deriving DecidableEq

abbrev Timesheet := Leg → Span

def Timesheet.total (spent : Timesheet) : Span :=
  spent .before + spent .timed + spent .after

def Nap.leg (nap : Nap) : Leg :=
  match nap.task with
  | .dial => .timed
  | .send => .timed
  | _ => if nap.worker.result.isSome then .after else .before

def Nap.charge (nap : Nap) : Timesheet := fun leg =>
  if nap.leg = leg then nap.promise.delay else 0

-- Time that is spent waiting for providers belongs to no leg.
def Wait.charge : Wait → Timesheet
  | .call nap => nap.charge
  | .answer .. => fun _ => 0

-- What the execution at a place spends, as far as it is seen to wake.
def timesheet (woken : List Sleeper) (place : Nat) : Timesheet := fun leg =>
  ((woken.filter fun x => x.place = place).map fun x => x.wait.charge leg).sum

section Timesheet

theorem timesheet_own (x : Sleeper) (others : List Sleeper) (leg : Leg) :
    timesheet (x :: others) x.place leg = x.wait.charge leg + timesheet others x.place leg := by
  simp [timesheet]

theorem timesheet_other {x : Sleeper} {place : Nat} (elsewhere : x.place ≠ place)
    (others : List Sleeper) : timesheet (x :: others) place = timesheet others place := by
  funext leg
  simp [timesheet, elsewhere]

theorem timesheet_nothing {others : List Sleeper} {place : Nat}
    (nowhere : ∀ x ∈ others, x.place ≠ place) (leg : Leg) : timesheet others place leg = 0 := by
  have nobody : others.filter (fun x => x.place = place) = [] :=
    List.filter_eq_nil_iff.mpr fun x member there => nowhere x member (of_decide_eq_true there)
  simp [timesheet, nobody]

theorem charge_total (nap : Nap) : nap.charge.total = nap.promise.delay := by
  cases leg : nap.leg <;> simp [Timesheet.total, Nap.charge, leg]

theorem total_add {spent first rest : Timesheet} (adds : ∀ leg, spent leg = first leg + rest leg) :
    spent.total = first.total + rest.total := by
  simp only [Timesheet.total, adds, Nat.add_assoc, Nat.add_left_comm]

end Timesheet

-- The times of a result are those of a worker that spends so much more from a moment on.
def Times.Fulfils (now : Moment) (spent : Timesheet) (r : ExecutionResult) : Times → Prop
  | (_, some (start, finish)) =>
    spent .before = 0 ∧ spent .timed = 0 ∧ r.start = start ∧ r.finish = finish
  | (some start, none) => spent .before = 0 ∧ r.start = start ∧ r.finish = now + spent .timed
  | (none, none) =>
    r.start = now + spent .before ∧ r.finish = now + spent .before + spent .timed

def Nap.Fulfils (wakes : Moment) (spent : Timesheet) (r : ExecutionResult) (nap : Nap) : Prop :=
  ∃ rest : Timesheet, (∀ leg, spent leg = nap.charge leg + rest leg) ∧
    nap.worker.times.Fulfils wakes rest r

def Standing.Fulfils (now : Moment) (spent : Timesheet) (r : ExecutionResult) : Standing → Prop
  | .waiting nap => nap.Fulfils (now + nap.promise.delay) spent r
  | .finished ended => (∀ leg, spent leg = 0) ∧ r.start = ended.start ∧ r.finish = ended.finish
  | _ => False

section Fulfils

variable {now : Moment} {spent : Timesheet} {r : ExecutionResult} {services : Services σ}

theorem nap_leg {e : Execution} {nap : Nap} (fits : nap.Fits e) :
    (nap.leg = .before ∧ nap.worker.times = (none, none)) ∨
    (nap.leg = .timed ∧ ∃ start, nap.worker.times = (some start, none)) ∨
    nap.leg = .after ∧ ∃ start ran, nap.worker.times = (start, some ran) := by
  have inOrder := fits.inOrder
  have calls := fits.calls
  cases task : nap.task with
  | startTimer =>
      rw [task] at calls
      cases calls
  | stopTimer =>
      rw [task] at calls
      cases calls
  | hook step =>
      rw [task] at inOrder
      cases result : nap.worker.result with
      | none =>
          have unstarted : nap.worker.recording.start = none := by
            simpa [result] using inOrder.1
          exact .inl ⟨by simp [Nap.leg, task, result], by simp [Worker.times, unstarted, result]⟩
      | some r =>
          exact .inr (.inr ⟨by simp [Nap.leg, task, result], by simp [Worker.times, result]⟩)
  | _ =>
      rw [task] at inOrder
      obtain ⟨start, started⟩ := Option.isSome_iff_exists.mp inOrder.1
      have unstopped : nap.worker.result = none := by
        simpa using inOrder.2.1
      exact .inr (.inl ⟨by simp [Nap.leg, task], start, by simp [Worker.times, started, unstopped]⟩)

theorem nap_fulfils {e : Execution} {nap : Nap} (fits : nap.Fits e)
    (fulfils : nap.Fulfils (now + nap.promise.delay) spent r) :
    nap.worker.times.Fulfils now spent r := by
  obtain ⟨rest, adds, fulfils⟩ := fulfils
  have before := adds .before
  have timed := adds .timed
  rcases nap_leg fits with ⟨leg, times⟩ | ⟨leg, start, times⟩ | ⟨leg, start, ran, times⟩
  all_goals
    rw [times] at fulfils ⊢
    simp only [Nap.charge, leg, Times.Fulfils] at fulfils before timed ⊢
    simp_all [Nat.add_assoc]

theorem task_fulfils {e : Execution} {task : Task} {rest : List Task} {w : Worker}
    (fits : Fits e (task :: rest) w) (fulfils : (task.timed now w.times).Fulfils now spent r) :
    w.times.Fulfils now spent r := by
  cases task with
  | startTimer =>
      have fresh : w.recording.start = none := by
        simpa using fits.inOrder.1
      cases result : w.result with
      | none =>
          simp only [Worker.times, fresh, result, Task.timed, Option.map_none, Times.Fulfils] at fulfils ⊢
          simp_all
      | some ended =>
          simp only [Worker.times, fresh, result, Task.timed, Option.map_some, Times.Fulfils] at fulfils ⊢
          exact fulfils
  | stopTimer =>
      obtain ⟨start, started⟩ := Option.isSome_iff_exists.mp fits.inOrder.1
      have unstopped : w.result = none := by
        simpa using fits.inOrder.2.1
      simp only [Worker.times, started, unstopped, Task.timed, Option.map_none, Option.map_some,
        Times.Fulfils] at fulfils ⊢
      simp_all
  | _ => exact fulfils

theorem resume_fulfils_if {e : Execution} (nap : Nap)
    (works : ∀ w (c : Course σ), Fits e nap.rest w → c.tick = 0 →
      (work services nap.rest w c).1.Fulfils c.now spent r → w.times.Fulfils c.now spent r)
    (idle : ∀ call world, (services.take call world).1.effort = 0) (fits : nap.Fits e)
    (effort : nap.promise.effort = 0) (c : Course σ) (still : c.tick = 0)
    (fulfils : (nap.resume services c).1.Fulfils c.now spent r) :
    nap.worker.times.Fulfils c.now spent r := by
  have kept := still_kept idle fun _ => id
  have settled := kept.settles c nap.call nap.promise effort still
  have received := receive_kept kept nap.worker nap.task (c.settle nap.call nap.promise).1
    (c.settle nap.call nap.promise).2 settled.2
  rw [settled.1] at received
  rcases resume_cases services nap c with ⟨w, c', receives, goes⟩ | ⟨panic, c', -, goes⟩
  · have ok := congrArg Prod.fst receives
    rw [receives] at received
    rw [goes, ← received.1] at fulfils
    rw [← receive_times ok, ← received.1]
    exact works w c' (receive_fits fits.rest ok) received.2 fulfils
  · rw [goes] at fulfils
    exact False.elim fulfils

theorem work_fulfils (idle : ∀ call world, (services.take call world).1.effort = 0) (e : Execution)
    (todo : List Task) (w : Worker) (c : Course σ) (fits : Fits e todo w) (still : c.tick = 0)
    (fulfils : (work services todo w c).1.Fulfils c.now spent r) :
    w.times.Fulfils c.now spent r := by
  have kept := still_kept idle fun _ => id
  induction todo generalizing w c with
  | nil =>
      obtain ⟨ended, reported⟩ := Option.isSome_iff_exists.mp fits.inOrder
      simp only [work, reported] at fulfils
      obtain ⟨nothing, start, finish⟩ := fulfils
      simp only [Worker.times, reported, Option.map_some]
      exact ⟨nothing .before, nothing .timed, start, finish⟩
  | cons task rest ih =>
      have passed := pass_kept kept w task c still
      rcases fitting_cases services fits c with
        ⟨w', c', -, passes, fitsStill, goes⟩ | ⟨call, napFits, goes⟩
      · rw [passes] at passed
        rw [goes, ← passed.1] at fulfils
        have later := ih w' c' fitsStill passed.2 fulfils
        rw [pass_times (congrArg Prod.fst passes), passed.1] at later
        exact task_fulfils fits later
      · have effort := idle call c.world
        have taken := kept.takes c call still
        rw [goes] at fulfils
        split at fulfils
        · rw [← taken.1] at fulfils ⊢
          exact resume_fulfils_if ⟨w, task, call, (c.take services call).1, rest⟩ ih idle napFits effort
            _ taken.2 fulfils
        · exact nap_fulfils napFits fulfils

theorem resume_fulfils (idle : ∀ call world, (services.take call world).1.effort = 0) {e : Execution}
    {nap : Nap} (fits : nap.Fits e) (effort : nap.promise.effort = 0) (c : Course σ)
    (still : c.tick = 0)
    (fulfils : (nap.resume services c).1.Fulfils c.now spent r) :
    nap.worker.times.Fulfils c.now spent r :=
  resume_fulfils_if nap (work_fulfils idle e nap.rest) idle fits effort c still fulfils

end Fulfils

end SqlBench.Pool
