import Mathlib.Data.List.Forall2
import SqlBench.Proofs.Echo
import SqlBench.Proofs.Pool.Fate

set_option autoImplicit false

namespace SqlBench

namespace Echo

variable (k : Echo)

def worker (w : Pool.Worker) : Pool.Worker :=
  { w with
    recording := { w.recording with
      execution := k.execution w.recording.execution
      start := w.recording.start.map (k.delay + ·) }
    result := w.result.map k.result }

def fate : Pool.Fate → Pool.Fate
  | .finished r => .finished (k.result r)
  | fate => fate

def crash (x : Pool.Crash) : Pool.Crash :=
  { x with execution := k.execution x.execution }

end Echo

namespace Pool

section Moved

variable (k : Echo)

theorem call_echo (w : Worker) (task : Task) : (k.worker w).call? task = w.call? task := by
  cases task <;> rfl

theorem fail_echo (w : Worker) (cause : Failure) :
    (k.worker w).fail cause = k.worker (w.fail cause) := by
  cases result : w.result <;> simp [Worker.fail, Echo.worker, result, Echo.result_fail, Recording.fail]

theorem fail_hook_echo (w : Worker) (cause : Failure) (a b : Course Unit) :
    ((k.worker w).failHook cause a).1 = k.worker (w.failHook cause b).1 := by
  simp only [Worker.failHook, fail_echo]
  rfl

theorem pass_echo (w : Worker) (task : Task) (t : Moment) :
    ((k.worker w).pass task (clockAt (k.delay + t))).1 =
      (w.pass task (clockAt t)).1.map k.worker := by
  cases task with
  | startTimer =>
      cases start : w.recording.start <;>
        simp [Worker.pass, Echo.worker, Course.readClock, clockAt, Recording.startTimer, start,
          Except.map]
      rfl
  | stopTimer =>
      cases start : w.recording.start <;>
        simp [Worker.pass, Echo.worker, Echo.result, Course.readClock, clockAt, Recording.stopTimer,
          start, Except.map]
      rfl
  | hook step =>
      cases step with
      | refuse cause =>
          have failed := fail_hook_echo k w cause (clockAt (k.delay + t)) (clockAt t)
          by_cases skipping : w.isSkipping
          · simp [Worker.pass, Echo.worker, skipping, Except.map]
          · have same : (k.worker w).isSkipping = false := Bool.eq_false_iff.mpr skipping
            simp [Worker.pass, same, skipping, failed, Except.map]
      | _ => rfl
  | _ => rfl

theorem receive_echo (w : Worker) (task : Task) (outcome : Course.Outcome) (c : Course Unit) :
    ((k.worker w).receive task outcome c).1 = (w.receive task outcome c).1.map k.worker := by
  cases task with
  | hook step =>
      cases outcome with
      | failed cause => exact congrArg Except.ok (fail_hook_echo k w cause c c)
      | _ => rfl
  | _ => cases outcome <;> rfl

end Moved

variable {σ : Type} {services : Services σ} {k : Echo} {before before' : List (Moment × Event)}
  {c c' : Course σ}

def Worker.Echoes (k : Echo) (w w' : Worker) : Prop :=
  w'.unnumbered = k.worker w.unnumbered

theorem start_echoes (k : Echo) (e : Execution) :
    (Worker.start e).Echoes k (Worker.start (k.execution e)) :=
  rfl

theorem call_echoes {w w' : Worker} (workers : w.Echoes k w') (task : Task) :
    (w'.call? task).map Call.unnumbered = (w.call? task).map Call.unnumbered := by
  rw [← call_unnumbered, ← call_unnumbered, workers, call_echo]

theorem pass_course (w : Worker) (task : Task) (c : Course σ) :
    (task = .startTimer ∨ task = .stopTimer) ∧ (w.pass task c).2 = c.readClock.2 ∨
      (task ≠ .startTimer ∧ task ≠ .stopTimer) ∧ ∃ line, (w.pass task c).2 = c.close line := by
  cases task with
  | startTimer =>
      refine .inl ⟨.inl rfl, ?_⟩
      simp only [Worker.pass]
      split <;> rfl
  | stopTimer =>
      refine .inl ⟨.inr rfl, ?_⟩
      simp only [Worker.pass]
      split <;> rfl
  | hook step =>
      refine .inr ⟨by simp, ?_⟩
      cases step with
      | refuse cause =>
          simp only [Worker.pass]
          split
          · exact ⟨none, rfl⟩
          · exact ⟨w.lines.own, rfl⟩
      | hangUp => exact ⟨w.lines.own, rfl⟩
      | _ => exact ⟨none, rfl⟩
  | _ => exact .inr ⟨by simp, none, rfl⟩

theorem pass_echoes {w w' : Worker} (workers : w.Echoes k w')
    (echoes : Course.Echoes k before before' c c') (task : Task) :
    (w'.pass task c').1.map Worker.unnumbered =
        (w.pass task c).1.map (fun w => k.worker w.unnumbered) ∧
      Course.Echoes k before before' (w.pass task c).2 (w'.pass task c').2 := by
  constructor
  · rw [← pass_unnumbered, workers, echoes.now, pass_echo, pass_unnumbered]
    cases (w.pass task c).1 <;> rfl
  · rcases pass_course w task c with ⟨timer, reads⟩ | ⟨other, line, closes⟩
    · rcases pass_course w' task c' with ⟨-, reads'⟩ | ⟨other, -⟩
      · rw [reads, reads']
        exact echoes.read
      · exact absurd timer (not_or.mpr other)
    · rcases pass_course w' task c' with ⟨timer, -⟩ | ⟨-, line', closes'⟩
      · exact absurd timer (not_or.mpr other)
      · rw [closes, closes']
        exact echoes.close line line'

theorem receive_course (w : Worker) (task : Task) (outcome : Course.Outcome) (c : Course σ) :
    ∃ line, (w.receive task outcome c).2 = c.close line := by
  cases task with
  | hook step =>
      cases outcome with
      | failed cause => exact ⟨w.lines.own, rfl⟩
      | _ => exact ⟨none, rfl⟩
  | _ => cases outcome <;> exact ⟨none, rfl⟩

theorem receive_echoes {w w' : Worker} (workers : w.Echoes k w')
    (echoes : Course.Echoes k before before' c c') (task : Task) {outcome outcome' : Course.Outcome}
    (same : outcome'.unnumbered = outcome.unnumbered) :
    (w'.receive task outcome' c').1.map Worker.unnumbered =
        (w.receive task outcome c).1.map (fun w => k.worker w.unnumbered) ∧
      Course.Echoes k before before' (w.receive task outcome c).2 (w'.receive task outcome' c').2 := by
  constructor
  · rw [← receive_unnumbered w' task outcome' c' (clockAt 0), workers, same, receive_echo,
      receive_unnumbered w task outcome c (clockAt 0)]
    cases (w.receive task outcome c).1 <;> rfl
  · obtain ⟨line, closes⟩ := receive_course w task outcome c
    obtain ⟨line', closes'⟩ := receive_course w' task outcome' c'
    rw [closes, closes']
    exact echoes.close line line'

structure Nap.Echoes (k : Echo) (nap nap' : Nap) : Prop where
  worker : nap.worker.Echoes k nap'.worker
  task : nap'.task = nap.task
  call : nap'.call.unnumbered = nap.call.unnumbered
  promise : nap'.promise = nap.promise
  calm : nap.promise.requestsStop = false
  rest : nap'.rest = nap.rest

inductive Standing.Echoes (k : Echo) : Standing → Standing → Prop where
  | waiting {nap nap' : Nap} (naps : nap.Echoes k nap') : Echoes k (.waiting nap) (.waiting nap')
  | finished (r : ExecutionResult) : Echoes k (.finished r) (.finished (k.result r))
  | dropped (cause : Failure) : Echoes k (.dropped cause) (.dropped cause)
  | crashed (panic : String) : Echoes k (.crashed panic) (.crashed panic)

def GoesAlike (k : Echo) (before before' : List (Moment × Event)) (out out' : Standing × Course σ) : Prop :=
  Standing.Echoes k out.1 out'.1 ∧ Course.Echoes k before before' out.2 out'.2

theorem close_all_echoes (echoes : Course.Echoes k before before' c c') (w w' : Worker) :
    Course.Echoes k before before' (closeAll w c) (closeAll w' c') :=
  (echoes.close w.lines.own w'.lines.own).close w.lines.given w'.lines.given

theorem resume_echoes_if {nap nap' : Nap} (naps : nap.Echoes k nap')
    (works : ∀ {w w' : Worker} {c c' : Course σ}, w.Echoes k w' → Course.Echoes k before before' c c' →
      GoesAlike k before before' (work services nap.rest w c) (work services nap.rest w' c'))
    (echoes : Course.Echoes k before before' c c') :
    GoesAlike k before before' (nap.resume services c) (nap'.resume services c') := by
  have settled := echoes.settle nap.call nap'.call naps.calm
  have outcome := Course.settle_alike naps.call nap.promise c c'
  obtain ⟨received, received'⟩ := receive_echoes naps.worker settled nap.task outcome
  simp only [Nap.resume, naps.promise, naps.task, naps.rest]
  generalize nap'.worker.receive nap.task (c'.settle nap'.call nap.promise).1
    (c'.settle nap'.call nap.promise).2 = got' at received received'
  generalize nap.worker.receive nap.task (c.settle nap.call nap.promise).1
    (c.settle nap.call nap.promise).2 = got at received received'
  obtain ⟨outcome', later'⟩ := got'
  obtain ⟨outcome, later⟩ := got
  rcases map_alike received with ⟨panic, rfl, rfl⟩ | ⟨w, w', rfl, rfl, workers⟩
  · exact ⟨.crashed panic, close_all_echoes received' nap.worker nap'.worker⟩
  · exact works workers received'

theorem work_echoes (steady : services.Steady) (todo : List Task) {w w' : Worker}
    (workers : w.Echoes k w') (echoes : Course.Echoes k before before' c c') :
    GoesAlike k before before' (work services todo w c) (work services todo w' c') := by
  induction todo generalizing w w' c c' with
  | nil =>
      have closed := close_all_echoes echoes w w'
      have result : w'.result = w.result.map k.result := congrArg Worker.result workers
      have label : w'.recording.execution.label = w.recording.execution.label :=
        congrArg (fun w => w.recording.execution.label) workers
      cases told : w.result with
      | none =>
          rw [told] at result
          simp only [work, told, result, Option.map_none, label]
          exact ⟨.dropped _, closed⟩
      | some r =>
          rw [told] at result
          simp only [work, told, result, Option.map_some]
          exact ⟨.finished r, closed⟩
  | cons task rest ih =>
      have called := call_echoes workers task
      cases calls : w.call? task with
      | none =>
          rw [calls] at called
          have calls' : w'.call? task = none := Option.map_eq_none_iff.mp called
          obtain ⟨passed, passed'⟩ := pass_echoes workers echoes task
          simp only [work, calls, calls']
          generalize w'.pass task c' = got' at passed passed'
          generalize w.pass task c = got at passed passed'
          obtain ⟨outcome', later'⟩ := got'
          obtain ⟨outcome, later⟩ := got
          rcases map_alike passed with ⟨cause, rfl, rfl⟩ | ⟨x, x', rfl, rfl, later⟩
          · exact ⟨.dropped cause, close_all_echoes passed' w w'⟩
          · exact ih later passed'
      | some call =>
          rw [calls] at called
          obtain ⟨call', calls', named⟩ := Option.map_eq_some_iff.mp called
          obtain ⟨promise, taken⟩ := echoes.take steady named
          have naps : Nap.Echoes k ⟨w, task, call, (c.take services call).1, rest⟩
              ⟨w', task, call', (c'.take services call').1, rest⟩ :=
            ⟨workers, rfl, named, promise, steady.calm call c.world, rfl⟩
          have resumed := resume_echoes_if naps ih taken
          simp only [work, calls, calls', promise]
          rw [promise] at resumed naps
          split
          · exact resumed
          · exact ⟨.waiting naps, taken⟩

theorem resume_echoes (steady : services.Steady) {nap nap' : Nap} (naps : nap.Echoes k nap')
    (echoes : Course.Echoes k before before' c c') :
    GoesAlike k before before' (nap.resume services c) (nap'.resume services c') :=
  resume_echoes_if naps (work_echoes steady nap.rest) echoes

inductive Wait.Echoes (k : Echo) : Wait → Wait → Prop where
  | call {nap nap' : Nap} (naps : nap.Echoes k nap') : Echoes k (.call nap) (.call nap')
  | answer (r : ExecutionResult) (heard : Finding) (asked : Nat) :
      Echoes k (.answer r heard asked) (.answer (k.result r) heard asked)

theorem wait_echo_permit {k : Echo} {wait wait' : Wait} (waits : wait.Echoes k wait') :
    wait'.holdsPermit = wait.holdsPermit := by
  cases waits <;> rfl

structure Sleeper.Echoes (k : Echo) (x x' : Sleeper) : Prop where
  place : x'.place = x.place
  execution : x'.execution = k.execution x.execution
  wakes : x'.wakes = k.delay + x.wakes
  wait : x.wait.Echoes k x'.wait

def moved (k : Echo) (queue : List (Nat × Execution)) : List (Nat × Execution) :=
  queue.map fun x => (x.1, k.execution x.2)

structure State.Echoes (k : Echo) (before before' : List (Moment × Event)) (s s' : State σ) : Prop where
  queue : s'.queue = moved k s.queue
  running : List.Forall₂ (Sleeper.Echoes k) s.running s'.running
  fates : s'.fates = s.fates.map fun f => (f.1, k.fate f.2)
  crash : s'.crash = s.crash.map k.crash
  stopped : s'.hasStopped = s.hasStopped
  course : Course.Echoes k before before' s.course s'.course

theorem tasks_echo (services : Services σ) (k : Echo) (e : Execution) :
    tasks services (k.execution e) = tasks services e := by
  have same : ∀ isConnected, Hook.steps services
        ⟨some (k.benchmark e.benchmark), e.hookAttributes, isConnected⟩ =
      Hook.steps services ⟨some e.benchmark, e.hookAttributes, isConnected⟩ :=
    fun isConnected => funext (Hook.steps_echo services k ⟨some e.benchmark, e.hookAttributes, isConnected⟩)
  have attributes : (k.execution e).hookAttributes = e.hookAttributes := rfl
  have benchmark : (k.execution e).benchmark = k.benchmark e.benchmark := rfl
  simp only [tasks, attributes, benchmark, same]
  rfl

theorem next_echoes {running running' : List Sleeper}
    (asleep : List.Forall₂ (Sleeper.Echoes k) running running') :
    (next? running = none ∧ next? running' = none) ∨
      ∃ x others x' others', next? running = some (x, others) ∧ next? running' = some (x', others') ∧
        x.Echoes k x' ∧ List.Forall₂ (Sleeper.Echoes k) others others' := by
  induction asleep with
  | nil => exact .inl ⟨rfl, rfl⟩
  | @cons a a' rest rest' own later ih =>
      rcases ih with ⟨nobody, nobody'⟩ | ⟨x, others, x', others', found, found', alike, remains⟩
      · refine .inr ⟨a, [], a', [], ?_, ?_, own, .nil⟩
        · rw [next?, nobody]
        · rw [next?, nobody']
      · have order : wakesFirst a' x' = wakesFirst a x := by
          simp only [wakesFirst, own.wakes, alike.wakes, Nat.add_le_add_iff_left]
        simp only [next?, found, found', order]
        cases wakesFirst a x with
        | true => exact .inr ⟨a, rest, a', rest', rfl, rfl, own, later⟩
        | false => exact .inr ⟨x, a :: others, x', a' :: others', rfl, rfl, alike, .cons own remains⟩

section Run

variable {p : Pool σ} {s s' : State σ}

theorem State.Echoes.go (states : s.Echoes k before before' s')
    (course : Course.Echoes k before before' c c') :
    State.Echoes k before before' { s with course := c } { s' with course := c' } :=
  ⟨states.queue, states.running, states.fates, states.crash, states.stopped, course⟩

theorem post_echoes (echoes : Course.Echoes k before before' c c') (event : Event) :
    Course.Echoes k before before' (p.post event c) (p.post (k.event event) c') := by
  rw [post, post]
  split
  · exact echoes
  · exact echoes.post event

theorem record_echoes (states : s.Echoes k before before' s') (place : Nat) (r : ExecutionResult) :
    (p.record place r s).Echoes k before before' (p.record place (k.result r) s') := by
  refine ⟨states.queue, states.running, ?_, states.crash, ?_, post_echoes states.course _⟩
  · simp only [record, State.conclude, states.fates, List.map_append]
    rfl
  · simp only [record, State.conclude, states.stopped]
    rfl

theorem conclude_echoes (states : s.Echoes k before before' s') (place : Nat) (fate : Fate) :
    (s.conclude place fate).Echoes k before before' (s'.conclude place (k.fate fate)) := by
  refine ⟨states.queue, states.running, ?_, states.crash, states.stopped, states.course⟩
  simp only [State.conclude, states.fates, List.map_append]
  rfl

theorem notice_echoes (states : s.Echoes k before before' s') (held : Option Crash) :
    (p.notice held s).Echoes k before before' (p.notice (held.map k.crash) s') := by
  cases held with
  | none => exact states
  | some x =>
      have result : crashedResult (k.execution x.execution) x.panic s'.course.now =
          k.result (crashedResult x.execution x.panic s.course.now) := by
        rw [states.course.now]
        rfl
      simp only [notice_crashed, Option.map_some, Echo.crash, result]
      split
      · exact record_echoes states x.place _
      · exact conclude_echoes states x.place (.crashed x.panic)

theorem sleep_echoes (states : s.Echoes k before before' s') {wait wait' : Wait}
    (waits : wait.Echoes k wait') (place : Nat) (e : Execution) (delay : Span) :
    (s.sleep place e delay wait).Echoes k before before'
      (s'.sleep place (k.execution e) delay wait') := by
  have wakes : s'.course.now + delay = k.delay + (s.course.now + delay) := by
    rw [states.course.now, Nat.add_assoc]
  refine ⟨states.queue, ?_, states.fates, states.crash, states.stopped, states.course⟩
  exact List.rel_append states.running (.cons ⟨rfl, rfl, wakes, waits⟩ .nil)

theorem inquire_echoes (impartial : p.services.collector.Impartial k)
    (states : s.Echoes k before before' s') (place : Nat) (e : Execution) (r : ExecutionResult)
    (asked : Nat) (heard : Finding) :
    (p.inquire place e r asked heard s).Echoes k before before'
      (p.inquire place (k.execution e) (k.result r) asked heard s') := by
  have told : (p.services.collector.goOn (.execution (k.result r)) asked heard s'.course.world).1 =
      (p.services.collector.goOn (.execution r) asked heard s.course.world).1 :=
    Collector.go_on_impartial impartial (.execution r) asked heard s.course.world s'.course.world
  rw [inquire, inquire]
  generalize p.services.collector.goOn (.execution (k.result r)) asked heard s'.course.world = gone' at told
  generalize p.services.collector.goOn (.execution r) asked heard s.course.world = gone at told
  obtain ⟨round', world'⟩ := gone'
  obtain ⟨round, world⟩ := gone
  cases told
  have learnt := states.go (states.course.turn world world')
  dsimp only
  split
  · rename_i delay found later
    exact sleep_echoes learnt (.answer r found later) place e delay
  · rename_i found
    exact record_echoes learnt place { r with measurements := found }
  · rename_i cause
    exact record_echoes learnt place (r.fail cause)
  · exact ⟨learnt.queue, learnt.running, learnt.fates, rfl, learnt.stopped, learnt.course⟩

theorem follow_echoes (impartial : p.services.collector.Impartial k)
    (states : s.Echoes k before before' s') {standing standing' : Standing}
    (standings : standing.Echoes k standing') (place : Nat) (e : Execution) :
    (p.follow place e standing s).Echoes k before before'
      (p.follow place (k.execution e) standing' s') := by
  cases standings with
  | @waiting nap nap' naps =>
      rw [follow, follow, naps.promise]
      exact sleep_echoes states (.call naps) place e nap.promise.delay
  | finished r => exact inquire_echoes impartial states place e r 0 (.ok [])
  | dropped cause => exact conclude_echoes states place (.dropped cause)
  | crashed panic =>
      exact ⟨states.queue, states.running, states.fates, rfl, states.stopped, states.course⟩

theorem launch_echoes (steady : p.services.Steady) (impartial : p.services.collector.Impartial k)
    (states : s.Echoes k before before' s') (place : Nat) (e : Execution) :
    (p.launch place e s).Echoes k before before' (p.launch place (k.execution e) s') := by
  have posted := post_echoes (p := p) states.course (.executionStarted e)
  obtain ⟨standings, course⟩ := work_echoes steady (tasks p.services e) (start_echoes k e) posted
  rw [launch, launch, tasks_echo]
  exact follow_echoes impartial (states.go course) standings place e

theorem uninterrupted (endless : p.deadline = none) (unasked : c.stop = .never) :
    p.isInterrupted c = false := by
  simp [isInterrupted, isOver, endless, Course.isStopped, StopRequest.holds, StopRequest.never, unasked]

theorem stopped_echoes (endless : p.deadline = none) (states : s.Echoes k before before' s') :
    p.isStopped s' = p.isStopped s := by
  rw [isStopped, isStopped, states.stopped, uninterrupted endless states.course.stop,
    uninterrupted endless states.course.stop']

theorem permits_echo {running running' : List Sleeper}
    (asleep : List.Forall₂ (Sleeper.Echoes k) running running') :
    (running'.countP fun x => x.wait.holdsPermit) = running.countP fun x => x.wait.holdsPermit := by
  induction asleep with
  | nil => rfl
  | cons own _ ih => simp only [List.countP_cons, wait_echo_permit own.wait, ih]

theorem grant_echoes (steady : p.services.Steady) (impartial : p.services.collector.Impartial k)
    (endless : p.deadline = none) (queue : List (Nat × Execution))
    (states : s.Echoes k before before' s') :
    (p.grant queue s).Echoes k before before' (p.grant (moved k queue) s') := by
  -- Whatever the queue becomes, a breakdown that was held is noticed in both.
  have remains : ∀ {s s' : State σ}, s.Echoes k before before' s' → ∀ queue,
      State.Echoes k before before' { s with queue := queue, crash := none }
        { s' with queue := moved k queue, crash := none } :=
    fun states queue => ⟨rfl, states.running, states.fates, rfl, states.stopped, states.course⟩
  induction queue generalizing s s' with
  | nil =>
      simp only [moved, List.map_nil, grant, states.crash]
      exact notice_echoes (remains states []) s.crash
  | cons x rest ih =>
      have full : s'.permitsInUse = s.permitsInUse := permits_echo states.running
      simp only [moved, List.map_cons, grant, stopped_echoes endless states, full, states.crash]
      split
      · refine notice_echoes ?_ s.crash
        refine ⟨rfl, states.running, ?_, rfl, states.stopped, states.course⟩
        simp only [skip, states.fates, List.map_append, List.map_cons, List.map_map]
        rfl
      · split
        · have entered := launch_echoes steady impartial (remains states rest) x.1 x.2
          exact ih (notice_echoes entered s.crash)
        · exact notice_echoes (remains states (x :: rest)) s.crash

theorem wake_echoes (steady : p.services.Steady) (impartial : p.services.collector.Impartial k)
    (states : s.Echoes k before before' s') {x x' : Sleeper} {others others' : List Sleeper}
    (alike : x.Echoes k x') (remains : List.Forall₂ (Sleeper.Echoes k) others others') :
    (p.wake x others x.wakes s).Echoes k before before' (p.wake x' others' x'.wakes s') := by
  have advanced := states.course.advance x.wakes
  have asleep : State.Echoes k before before'
      { s with running := others, course := s.course.advanceTo x.wakes }
      { s' with running := others', course := s'.course.advanceTo (k.delay + x.wakes) } :=
    ⟨states.queue, remains, states.fates, states.crash, states.stopped, advanced⟩
  obtain ⟨place, execution, wakes, waits⟩ := alike
  rw [wake, wake, wakes]
  generalize calls : x.wait = wait at waits
  generalize calls' : x'.wait = wait' at waits
  cases waits with
  | @call nap nap' naps =>
      obtain ⟨standings, course⟩ := resume_echoes steady naps advanced
      rw [resume_call p calls, resume_call p calls', place, execution]
      exact follow_echoes impartial (asleep.go course) standings x.place x.execution
  | answer r heard asked =>
      rw [resume_answer p calls, resume_answer p calls', place, execution]
      exact inquire_echoes impartial asleep x.place x.execution r asked heard

theorem turn_echoes (steady : p.services.Steady) (impartial : p.services.collector.Impartial k)
    (endless : p.deadline = none) (states : s.Echoes k before before' s') :
    (p.turn s).Echoes k before before' (p.turn s') := by
  rcases next_echoes states.running with
    ⟨nobody, nobody'⟩ | ⟨x, others, x', others', found, found', alike, remains⟩
  · rw [turn_idle p nobody, turn_idle p nobody']
    exact states
  · have woken := wake_echoes steady impartial states alike remains
    rw [turn_wakes p found, turn_wakes p found', woken.queue]
    exact grant_echoes steady impartial endless _ woken

theorem turns_echoes (steady : p.services.Steady) (impartial : p.services.collector.Impartial k)
    (endless : p.deadline = none) (n : Nat) (states : s.Echoes k before before' s') :
    (p.turns n s).Echoes k before before' (p.turns n s') := by
  induction n generalizing s s' with
  | zero => exact states
  | succ n ih => exact ih (turn_echoes steady impartial endless states)

theorem workload_echo (p : Pool σ) (k : Echo) (executions : List Execution) :
    p.workload (executions.map k.execution) = p.workload executions := by
  simp only [workload, List.foldl_map, tasks_echo]

theorem run_echoes (steady : p.services.Steady) (impartial : p.services.collector.Impartial k)
    (endless : p.deadline = none) (executions : List Execution)
    (echoes : Course.Echoes k before before' c c') :
    (p.run executions c).Echoes k before before' (p.run (executions.map k.execution) c') := by
  have queue : (State.start (executions.map k.execution) c').queue =
      moved k (State.start executions c).queue := by
    simp only [State.start, moved, List.zipIdx_map, List.map_map]
    rfl
  have begun : (State.start executions c).Echoes k before before'
      (State.start (executions.map k.execution) c') := ⟨queue, .nil, rfl, rfl, rfl, echoes⟩
  have granted := grant_echoes steady impartial endless (State.start executions c).queue begun
  rw [run, run, workload_echo, queue]
  exact turns_echoes steady impartial endless _ granted

theorem results_echo (states : s.Echoes k before before' s') : s'.results = s.results.map k.result := by
  have told : (s'.fates.filterMap fun f => f.2.result?) =
      (s.fates.filterMap fun f => f.2.result?).map k.result := by
    rw [states.fates, List.filterMap_map, List.map_filterMap]
    congr 1
    funext f
    obtain ⟨place, fate⟩ := f
    cases fate <;> rfl
  rw [results_by_number, told, by_number_map (f := k.result) (fun _ => rfl), results_by_number]

end Run

end Pool

end SqlBench
