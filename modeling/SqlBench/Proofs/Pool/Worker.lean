import SqlBench.Pool.Worker
import SqlBench.Proofs.Course

set_option autoImplicit false

namespace SqlBench.Pool

-- Tasks that start the timer once, and behind that stop it once. In between they connect and send,
-- and the hooks lie before and behind.
def InOrder (isStarted isStopped : Bool) : List Task → Prop
  | [] => isStopped = true
  | .startTimer :: rest => isStarted = false ∧ InOrder true isStopped rest
  | .stopTimer :: rest => isStarted = true ∧ isStopped = false ∧ InOrder isStarted true rest
  | .hook _ :: rest => isStarted = isStopped ∧ InOrder isStarted isStopped rest
  | _ :: rest => isStarted = true ∧ isStopped = false ∧ InOrder isStarted isStopped rest

structure Fits (e : Execution) (rest : List Task) (w : Worker) : Prop where
  recorded : w.recording.execution = e
  reported : ∀ r, w.result = some r → r.execution = e
  inOrder : InOrder w.recording.start.isSome w.result.isSome rest

structure Nap.Fits (e : Execution) (nap : Nap) : Prop where
  rest : Pool.Fits e nap.rest nap.worker
  calls : nap.worker.call? nap.task = some nap.call
  inOrder : InOrder nap.worker.recording.start.isSome nap.worker.result.isSome (nap.task :: nap.rest)

def Standing.Fits (e : Execution) : Standing → Prop
  | .waiting nap => nap.Fits e
  | .finished r => r.execution = e
  | .dropped _ => False
  | .crashed _ => True

theorem in_order_hooks (isOver : Bool) (steps : List Hook.Step) (rest : List Task) :
    InOrder isOver isOver (steps.map Task.hook ++ rest) ↔ InOrder isOver isOver rest := by
  induction steps with
  | nil => rfl
  | cons step steps ih => exact (and_iff_right rfl).trans ih

theorem tasks_in_order {σ : Type} (services : Services σ) (e : Execution) :
    InOrder false false (tasks services e) := by
  simp only [tasks, List.append_assoc, in_order_hooks]
  refine ⟨rfl, ⟨rfl, rfl, ⟨rfl, rfl, ⟨rfl, rfl, ?_⟩⟩⟩⟩
  simpa using (in_order_hooks true _ []).mpr rfl

theorem start_fits {σ : Type} (services : Services σ) (e : Execution) :
    Fits e (tasks services e) (.start e) :=
  ⟨rfl, by simp [Worker.start], tasks_in_order services e⟩

theorem in_order_behind_call {isStarted isStopped : Bool} {w : Worker} {task : Task} {call : Call}
    {rest : List Task} (calls : w.call? task = some call)
    (inOrder : InOrder isStarted isStopped (task :: rest)) : InOrder isStarted isStopped rest := by
  cases task with
  | startTimer => cases calls
  | stopTimer => cases calls
  | hook step => exact inOrder.2
  | _ => exact inOrder.2.2

theorem fail_fits {e : Execution} {rest : List Task} {w : Worker} (fits : Fits e rest w)
    (cause : Failure) : Fits e rest (w.fail cause) := by
  obtain ⟨recorded, reported, inOrder⟩ := fits
  cases result : w.result with
  | none =>
      refine ⟨?_, ?_, ?_⟩
      · simpa [Worker.fail, result, Recording.fail] using recorded
      · simp [Worker.fail, result]
      · simpa [Worker.fail, result, Recording.fail] using inOrder
  | some r =>
      refine ⟨?_, ?_, ?_⟩
      · simpa [Worker.fail, result] using recorded
      · simpa [Worker.fail, result, ExecutionResult.fail] using reported r result
      · simpa [Worker.fail, result] using inOrder

theorem relined_fits {e : Execution} {rest : List Task} {w : Worker} (fits : Fits e rest w)
    (lines : Hook.Lines) (isSkipping : Bool) :
    Fits e rest { w with lines := lines, isSkipping := isSkipping } :=
  ⟨fits.recorded, fits.reported, fits.inOrder⟩

variable {σ : Type}

theorem fail_hook_fits {e : Execution} {rest : List Task} {w : Worker} (fits : Fits e rest w)
    (cause : Failure) (c : Course σ) : Fits e rest (w.failHook cause c).1 :=
  relined_fits (fail_fits fits cause) _ _

theorem pass_fits {e : Execution} {task : Task} {rest : List Task} {w : Worker}
    (fits : Fits e (task :: rest) w) (c : Course σ) :
    ∃ passed, (w.pass task c).1 = .ok passed ∧ Fits e rest passed := by
  obtain ⟨recorded, reported, inOrder⟩ := fits
  cases task with
  | startTimer =>
      have fresh : w.recording.start = none := by
        simpa using inOrder.1
      refine ⟨{ w with
        recording := { w.recording with start := some c.readClock.1 }, isSkipping := false },
        ?_, recorded, reported, inOrder.2⟩
      simp only [Worker.pass, Recording.startTimer, fresh]
  | stopTimer =>
      obtain ⟨start, started⟩ := Option.isSome_iff_exists.mp inOrder.1
      refine ⟨{ w with
        result := some ⟨w.recording.execution, start, c.readClock.1, w.recording.rows,
          w.recording.queryId, w.recording.failure, []⟩
        isSkipping := w.lines.given.isNone }, ?_, recorded, ?_, inOrder.2.2⟩
      · simp only [Worker.pass, Recording.stopTimer, started]
      · intro r same
        cases same
        exact recorded
  | dial => exact ⟨w, rfl, recorded, reported, inOrder.2.2⟩
  | send => exact ⟨w, rfl, recorded, reported, inOrder.2.2⟩
  | hook step =>
      have same : Fits e rest w := ⟨recorded, reported, inOrder.2⟩
      cases step with
      | refuse cause =>
          cases skipping : w.isSkipping with
          | true => exact ⟨w, by simp [Worker.pass, skipping], same⟩
          | false =>
              exact ⟨(w.failHook cause c).1, by simp [Worker.pass, skipping], fail_hook_fits same cause c⟩
      | hangUp => exact ⟨_, rfl, relined_fits same _ _⟩
      | _ => exact ⟨w, rfl, same⟩

theorem receive_fits {e : Execution} {task : Task} {rest : List Task} {w received : Worker}
    {outcome : Course.Outcome} {c : Course σ} (fits : Fits e rest w)
    (ok : (w.receive task outcome c).1 = .ok received) : Fits e rest received := by
  obtain ⟨recorded, reported, inOrder⟩ := fits
  cases outcome with
  | crashed panic => cases task <;> cases ok
  | failed cause =>
      cases task with
      | hook step =>
          cases ok
          exact fail_hook_fits ⟨recorded, reported, inOrder⟩ cause c
      | _ =>
          cases ok
          exact ⟨recorded, reported, inOrder⟩
  | _ =>
      cases task <;>
        · cases ok
          exact ⟨recorded, reported, inOrder⟩

-- When the timer was started, and from when to when it has run.
abbrev Times := Option Moment × Option (Moment × Moment)

def Worker.times (w : Worker) : Times :=
  (w.recording.start, w.result.map fun r => (r.start, r.finish))

def Task.timed (now : Moment) (times : Times) : Task → Times
  | .startTimer => (some now, times.2)
  | .stopTimer => (times.1, times.1.map fun start => (start, now))
  | _ => times

theorem fail_times (w : Worker) (cause : Failure) : (w.fail cause).times = w.times := by
  cases result : w.result <;>
    simp [Worker.fail, Worker.times, result, ExecutionResult.fail, Recording.fail]

theorem pass_times {w passed : Worker} {task : Task} {c : Course σ}
    (ok : (w.pass task c).1 = .ok passed) : passed.times = task.timed c.now w.times := by
  cases task with
  | startTimer =>
      cases start : w.recording.start with
      | none =>
          simp only [Worker.pass, Recording.startTimer, start, Except.ok.injEq] at ok
          subst ok
          rfl
      | some before =>
          simp only [Worker.pass, Recording.startTimer, start] at ok
          cases ok
  | stopTimer =>
      cases start : w.recording.start with
      | none =>
          simp only [Worker.pass, Recording.stopTimer, start] at ok
          cases ok
      | some before =>
          simp only [Worker.pass, Recording.stopTimer, start, Except.ok.injEq] at ok
          subst ok
          simp only [Worker.times, Task.timed, start, Option.map_some]
          rfl
  | dial =>
      cases ok
      rfl
  | send =>
      cases ok
      rfl
  | hook step =>
      cases step with
      | refuse cause =>
          cases skipping : w.isSkipping with
          | true =>
              simp only [Worker.pass, skipping, if_true, Except.ok.injEq] at ok
              subst ok
              rfl
          | false =>
              simp only [Worker.pass, skipping, Bool.false_eq_true, if_false, Except.ok.injEq] at ok
              subst ok
              exact fail_times w cause
      | _ =>
          cases ok
          rfl

theorem receive_times {w received : Worker} {task : Task} {outcome : Course.Outcome} {c : Course σ}
    (ok : (w.receive task outcome c).1 = .ok received) : received.times = w.times := by
  cases outcome with
  | crashed panic => cases task <;> cases ok
  | failed cause =>
      cases task with
      | hook step =>
          cases ok
          exact fail_times w cause
      | _ =>
          cases ok
          rfl
  | _ =>
      cases task <;>
        · cases ok
          rfl

theorem work_cases (services : Services σ) (task : Task) (rest : List Task) (w : Worker)
    (c : Course σ) :
    (∃ passed c', w.call? task = none ∧ w.pass task c = (.ok passed, c') ∧
      work services (task :: rest) w c = work services rest passed c') ∨
    (∃ cause c', w.call? task = none ∧ w.pass task c = (.error cause, c') ∧
      work services (task :: rest) w c = (.dropped cause, closeAll w c')) ∨
    ∃ call, w.call? task = some call ∧
      work services (task :: rest) w c =
        if (c.take services call).1.delay = 0 then
          Nap.resume services ⟨w, task, call, (c.take services call).1, rest⟩ (c.take services call).2
        else (.waiting ⟨w, task, call, (c.take services call).1, rest⟩, (c.take services call).2) := by
  cases calls : w.call? task with
  | none =>
      cases passes : w.pass task c with
      | mk result c' =>
          cases result with
          | ok passed => exact .inl ⟨passed, c', rfl, rfl, by simp only [work, calls, passes]⟩
          | error cause => exact .inr (.inl ⟨cause, c', rfl, rfl, by simp only [work, calls, passes]⟩)
  | some call =>
      refine .inr (.inr ⟨call, rfl, ?_⟩)
      rw [work]
      simp only [calls]
      rfl

theorem resume_cases (services : Services σ) (nap : Nap) (c : Course σ) :
    (∃ received c', nap.worker.receive nap.task (c.settle nap.call nap.promise).1
        (c.settle nap.call nap.promise).2 = (.ok received, c') ∧
      nap.resume services c = work services nap.rest received c') ∨
    ∃ panic c', nap.worker.receive nap.task (c.settle nap.call nap.promise).1
        (c.settle nap.call nap.promise).2 = (.error panic, c') ∧
      nap.resume services c = (.crashed panic, closeAll nap.worker c') := by
  cases receives : nap.worker.receive nap.task (c.settle nap.call nap.promise).1
    (c.settle nap.call nap.promise).2 with
  | mk result c' =>
      cases result with
      | ok received => exact .inl ⟨received, c', rfl, by simp only [Nap.resume, receives]⟩
      | error panic => exact .inr ⟨panic, c', rfl, by simp only [Nap.resume, receives]⟩

theorem fitting_cases (services : Services σ) {e : Execution} {task : Task} {rest : List Task}
    {w : Worker} (fits : Fits e (task :: rest) w) (c : Course σ) :
    (∃ passed c', w.call? task = none ∧ w.pass task c = (.ok passed, c') ∧ Fits e rest passed ∧
      work services (task :: rest) w c = work services rest passed c') ∨
    ∃ call, Nap.Fits e ⟨w, task, call, (c.take services call).1, rest⟩ ∧
      work services (task :: rest) w c =
        if (c.take services call).1.delay = 0 then
          Nap.resume services ⟨w, task, call, (c.take services call).1, rest⟩ (c.take services call).2
        else (.waiting ⟨w, task, call, (c.take services call).1, rest⟩, (c.take services call).2) := by
  obtain ⟨fitting, ok, fitsStill⟩ := pass_fits fits c
  rcases work_cases services task rest w c with
    ⟨passed, c', silent, passes, goes⟩ | ⟨cause, c', -, passes, -⟩ | ⟨call, calls, goes⟩
  · rw [passes] at ok
    cases ok
    exact .inl ⟨fitting, c', silent, passes, fitsStill, goes⟩
  · rw [passes] at ok
    cases ok
  · have behind : Fits e rest w :=
      ⟨fits.recorded, fits.reported, in_order_behind_call calls fits.inOrder⟩
    exact .inr ⟨call, ⟨behind, calls, fits.inOrder⟩, goes⟩

-- `works` is what is known of the tasks behind the call; by induction it holds of all of them.
theorem resume_fits_if {services : Services σ} {e : Execution} {nap : Nap}
    (works : ∀ w c, Fits e nap.rest w → (work services nap.rest w c).1.Fits e) (fits : nap.Fits e)
    (c : Course σ) : (nap.resume services c).1.Fits e := by
  rcases resume_cases services nap c with ⟨received, c', receives, goes⟩ | ⟨panic, c', -, goes⟩
  · rw [goes]
    exact works received c' (receive_fits fits.rest (congrArg Prod.fst receives))
  · rw [goes]
    trivial

theorem work_fits (services : Services σ) (e : Execution) (todo : List Task) (w : Worker)
    (c : Course σ) (fits : Fits e todo w) : (work services todo w c).1.Fits e := by
  induction todo generalizing w c with
  | nil =>
      obtain ⟨r, reported⟩ := Option.isSome_iff_exists.mp fits.inOrder
      simpa only [work, reported, Standing.Fits] using fits.reported r reported
  | cons task rest ih =>
      rcases fitting_cases services fits c with
        ⟨passed, c', -, -, fitsStill, goes⟩ | ⟨call, napFits, goes⟩
      · rw [goes]
        exact ih passed c' fitsStill
      · rw [goes]
        split
        · exact resume_fits_if ih napFits _
        · exact napFits

theorem resume_fits (services : Services σ) {e : Execution} {nap : Nap} (fits : nap.Fits e)
    (c : Course σ) : (nap.resume services c).1.Fits e :=
  resume_fits_if (fun w c fits => work_fits services e nap.rest w c fits) fits c

def Standing.load : Standing → Nat
  | .waiting nap => nap.rest.length + 1
  | _ => 0

theorem resume_load_if {services : Services σ} {nap : Nap}
    (works : ∀ w c, (work services nap.rest w c).1.load ≤ nap.rest.length) (c : Course σ) :
    (nap.resume services c).1.load ≤ nap.rest.length := by
  rcases resume_cases services nap c with ⟨received, c', -, goes⟩ | ⟨panic, c', -, goes⟩
  · rw [goes]
    exact works received c'
  · rw [goes]
    exact Nat.zero_le _

theorem work_load (services : Services σ) (todo : List Task) (w : Worker) (c : Course σ) :
    (work services todo w c).1.load ≤ todo.length := by
  induction todo generalizing w c with
  | nil =>
      rw [work]
      split <;> exact Nat.le_refl 0
  | cons task rest ih =>
      rw [List.length_cons]
      rcases work_cases services task rest w c with
        ⟨passed, c', -, -, goes⟩ | ⟨cause, c', -, -, goes⟩ | ⟨call, -, goes⟩
      · rw [goes]
        exact Nat.le_succ_of_le (ih passed c')
      · rw [goes]
        exact Nat.zero_le _
      · rw [goes]
        split
        · exact Nat.le_succ_of_le (resume_load_if ih _)
        · exact Nat.le_refl _

theorem resume_load (services : Services σ) (nap : Nap) (c : Course σ) :
    (nap.resume services c).1.load ≤ nap.rest.length :=
  resume_load_if (fun w c => work_load services nap.rest w c) c

-- What holds between the courses before and after, whatever a worker does, and of the promises that
-- were given by then.
structure Kept (services : Services σ) (R : Course σ → Course σ → Prop)
    (P : Course σ → Promise → Prop) : Prop where
  refl : ∀ c, R c c
  trans : ∀ {a b c}, R a b → R b c → R a c
  reads : ∀ c, R c c.readClock.2
  closes : ∀ c line, R c (c.close line)
  takes : ∀ c call, R c (c.take services call).2
  promised : ∀ (c : Course σ) call, P (c.take services call).2 (c.take services call).1
  carries : ∀ {a b promise}, R a b → P a promise → P b promise
  settles : ∀ c call promise, P c promise → R c (c.settle call promise).2

section Kept

variable {services : Services σ} {R : Course σ → Course σ → Prop} {P : Course σ → Promise → Prop}

theorem close_all_kept (kept : Kept services R P) (w : Worker) (c : Course σ) :
    R c (closeAll w c) :=
  kept.trans (kept.closes c w.lines.own) (kept.closes _ w.lines.given)

theorem pass_kept (kept : Kept services R P) (w : Worker) (task : Task) (c : Course σ) :
    R c (w.pass task c).2 := by
  cases task with
  | startTimer =>
      simp only [Worker.pass]
      split <;> exact kept.reads c
  | stopTimer =>
      simp only [Worker.pass]
      split <;> exact kept.reads c
  | dial => exact kept.refl c
  | send => exact kept.refl c
  | hook step =>
      cases step with
      | refuse cause =>
          simp only [Worker.pass]
          split
          · exact kept.refl c
          · exact kept.closes c w.lines.own
      | hangUp => exact kept.closes c w.lines.own
      | _ => exact kept.refl c

theorem receive_kept (kept : Kept services R P) (w : Worker) (task : Task)
    (outcome : Course.Outcome) (c : Course σ) : R c (w.receive task outcome c).2 := by
  cases task <;> cases outcome <;>
    first
      | exact kept.refl c
      | exact kept.closes c w.lines.own

-- The course that comes out is kept, and so is the promise that is waited for, if there is one.
def Keeps (R : Course σ → Course σ → Prop) (P : Course σ → Promise → Prop) (c : Course σ)
    (out : Standing × Course σ) : Prop :=
  R c out.2 ∧ ∀ nap, out.1 = .waiting nap → P out.2 nap.promise

theorem resume_kept_if (kept : Kept services R P) (nap : Nap)
    (works : ∀ w c, Keeps R P c (work services nap.rest w c)) (c : Course σ)
    (promised : P c nap.promise) : Keeps R P c (nap.resume services c) := by
  have settled := kept.settles c nap.call nap.promise promised
  have received := receive_kept kept nap.worker nap.task (c.settle nap.call nap.promise).1
    (c.settle nap.call nap.promise).2
  have onward := kept.trans settled received
  rcases resume_cases services nap c with ⟨w, c', receives, goes⟩ | ⟨panic, c', receives, goes⟩
  · rw [receives] at onward
    rw [goes]
    exact ⟨kept.trans onward (works w c').1, (works w c').2⟩
  · rw [receives] at onward
    rw [goes]
    exact ⟨kept.trans onward (close_all_kept kept nap.worker c'), by simp⟩

theorem work_kept (kept : Kept services R P) (todo : List Task) (w : Worker) (c : Course σ) :
    Keeps R P c (work services todo w c) := by
  induction todo generalizing w c with
  | nil =>
      rw [work]
      split <;> exact ⟨close_all_kept kept w c, by simp⟩
  | cons task rest ih =>
      have passed := pass_kept kept w task c
      rcases work_cases services task rest w c with
        ⟨w', c', -, passes, goes⟩ | ⟨cause, c', -, passes, goes⟩ | ⟨call, -, goes⟩
      · rw [passes] at passed
        rw [goes]
        exact ⟨kept.trans passed (ih w' c').1, (ih w' c').2⟩
      · rw [passes] at passed
        rw [goes]
        exact ⟨kept.trans passed (close_all_kept kept w c'), by simp⟩
      · have taken := kept.takes c call
        have promised := kept.promised c call
        rw [goes]
        split
        · obtain ⟨onward, waits⟩ := resume_kept_if kept ⟨w, task, call, _, rest⟩ ih
            (c.take services call).2 promised
          exact ⟨kept.trans taken onward, waits⟩
        · refine ⟨taken, fun nap waits => ?_⟩
          cases waits
          exact promised

theorem resume_kept (kept : Kept services R P) {nap : Nap} (c : Course σ)
    (promised : P c nap.promise) : Keeps R P c (nap.resume services c) :=
  resume_kept_if kept nap (fun w c => work_kept kept nap.rest w c) c promised

end Kept

theorem silent_kept (services : Services σ) : Kept services Course.Silent fun _ _ => True where
  refl := .refl
  trans := .trans
  reads := Course.silent_read_clock
  closes := Course.silent_close
  takes c := c.silent_take services
  promised _ _ := trivial
  carries _ _ := trivial
  settles c call promise _ := c.silent_settle call promise

theorem silent_work (services : Services σ) (todo : List Task) (w : Worker) (c : Course σ) :
    c.Silent (work services todo w c).2 :=
  (work_kept (silent_kept services) todo w c).1

theorem silent_resume (services : Services σ) (nap : Nap) (c : Course σ) :
    c.Silent (nap.resume services c).2 :=
  (resume_kept (silent_kept services) c trivial).1

theorem silent_resume_at (services : Services σ) (nap : Nap) (c : Course σ) (t : Moment) :
    c.Silent (nap.resume services (c.advanceTo t)).2 :=
  (c.silent_advance t).trans (silent_resume services nap (c.advanceTo t))

end SqlBench.Pool
