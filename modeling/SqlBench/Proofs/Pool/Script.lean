import SqlBench.Proofs.Collector
import SqlBench.Proofs.Pool.Worker

set_option autoImplicit false

namespace SqlBench

def Connection.unnumbered (line : Connection) : Connection :=
  { line with number := 0 }

def Call.unnumbered : Call → Call
  | .send line statement => .send line.unnumbered statement
  | call => call

def Course.Outcome.unnumbered : Course.Outcome → Course.Outcome
  | .connected line => .connected line.unnumbered
  | outcome => outcome

def Hook.Lines.unnumbered (lines : Hook.Lines) : Hook.Lines :=
  ⟨lines.given.map Connection.unnumbered, lines.own.map Connection.unnumbered⟩

namespace Hook

theorem call_unnumbered (step : Step) (lines : Lines) :
    step.call? lines.unnumbered = (step.call? lines).map Call.unnumbered := by
  cases step with
  | send statement =>
      cases own : lines.own <;> cases given : lines.given <;>
        simp [Step.call?, Lines.unnumbered, Call.unnumbered, own, given]
  | _ => rfl

theorem receive_unnumbered (lines : Lines) (outcome : Course.Outcome) :
    lines.unnumbered.receive outcome.unnumbered = (lines.receive outcome).map Lines.unnumbered := by
  cases outcome <;> rfl

end Hook

namespace Pool

def Worker.unnumbered (w : Worker) : Worker :=
  { w with lines := w.lines.unnumbered }

-- How calls and providers answer, by what they are asked alone.
structure Script where
  delay : Call → Span
  ending : Call → Ending
  providers : List (Requirement × (Subject → Answer))

-- Calls may still ask for a stop as they like.
structure Script.Governs {σ : Type} (script : Script) (services : Services σ) : Prop where
  delay : ∀ call world, (services.take call world).1.delay = script.delay call.unnumbered
  ending : ∀ call world, (services.take call world).1.ending = script.ending call.unnumbered
  effort : ∀ call world, (services.take call world).1.effort = 0
  providers : List.Forall₂
    (fun x y => x.1 = y.1 ∧ ∀ subject world, (x.2 subject world).1 = y.2 subject)
    services.collector script.providers

-- A course of which nothing matters but the time.
def clockAt (t : Moment) : Course Unit :=
  ⟨t, 0, .never, 0, [], ()⟩

def Script.outcome (script : Script) (call : Call) : Course.Outcome :=
  ((clockAt 0).settle call ⟨script.delay call, 0, false, script.ending call⟩).1

def outlook (script : Script) : List Task → Worker → Moment → Standing × Moment
  | [], w, t =>
    match w.result with
    | some r => (.finished r, t)
    | none => (.dropped (.illegal (.timerNotStarted w.recording.execution.label)), t)
  | task :: rest, w, t =>
    match w.call? task with
    | none =>
      match (w.pass task (clockAt t)).1 with
      | .ok w => outlook script rest w t
      | .error cause => (.dropped cause, t)
    | some call =>
      match (w.receive task (script.outcome call) (clockAt 0)).1 with
      | .ok w => outlook script rest w (t + script.delay call)
      | .error panic => (.crashed panic, t + script.delay call)

def Nap.outlook (script : Script) (nap : Nap) (t : Moment) : Standing × Moment :=
  match (nap.worker.unnumbered.receive nap.task (script.outcome nap.call.unnumbered)
    (clockAt 0)).1 with
  | .ok w => Pool.outlook script nap.rest w t
  | .error panic => (.crashed panic, t)

theorem outlook_after (script : Script) (todo : List Task) (w : Worker) (t : Moment) :
    t ≤ (outlook script todo w t).2 := by
  induction todo generalizing w t with
  | nil =>
      rw [outlook]
      split <;> exact Nat.le_refl t
  | cons task rest ih =>
      rw [outlook]
      split
      · split
        · exact ih _ t
        · exact Nat.le_refl t
      · split
        · exact Nat.le_trans (Nat.le_add_right t _) (ih _ _)
        · exact Nat.le_add_right t _

theorem nap_outlook_after (script : Script) (nap : Nap) (t : Moment) :
    t ≤ (nap.outlook script t).2 := by
  rw [Nap.outlook]
  split
  · exact outlook_after script _ _ t
  · exact Nat.le_refl t

variable {σ : Type}

theorem call_unnumbered (w : Worker) (task : Task) :
    w.unnumbered.call? task = (w.call? task).map Call.unnumbered := by
  cases task with
  | hook step =>
      cases skipping : w.isSkipping with
      | true => simp [Worker.call?, Worker.unnumbered, skipping]
      | false => simp [Worker.call?, Worker.unnumbered, skipping, Hook.call_unnumbered]
  | dial =>
      cases failed : w.recording.hasFailed <;>
        simp [Worker.call?, Worker.unnumbered, Call.unnumbered, failed]
  | send =>
      cases given : w.lines.given <;>
        simp [Worker.call?, Worker.unnumbered, Hook.Lines.unnumbered, Call.unnumbered, given]
  | _ => rfl

theorem fail_hook_unnumbered (w : Worker) (cause : Failure) (c : Course σ) (d : Course Unit) :
    (w.unnumbered.failHook cause d).1 = (w.failHook cause c).1.unnumbered := by
  cases result : w.result <;>
    simp [Worker.failHook, Worker.fail, Worker.unnumbered, Hook.Lines.unnumbered, result]

theorem pass_unnumbered (w : Worker) (task : Task) (c : Course σ) :
    (w.unnumbered.pass task (clockAt c.now)).1 = (w.pass task c).1.map Worker.unnumbered := by
  cases task with
  | startTimer =>
      cases start : w.recording.start <;>
        simp [Worker.pass, Worker.unnumbered, Course.readClock, clockAt, Recording.startTimer, start,
          Except.map]
  | stopTimer =>
      cases start : w.recording.start <;>
        simp [Worker.pass, Worker.unnumbered, Hook.Lines.unnumbered, Course.readClock, clockAt,
          Recording.stopTimer, start, Except.map]
  | hook step =>
      cases step with
      | refuse cause =>
          have failed := fail_hook_unnumbered w cause c (clockAt c.now)
          cases skipping : w.isSkipping with
          | true => simp [Worker.pass, Worker.unnumbered, skipping, Except.map]
          | false =>
              have same : w.unnumbered.isSkipping = false := skipping
              simp [Worker.pass, same, skipping, failed, Except.map]
      | hangUp => rfl
      | _ => rfl
  | _ => rfl

theorem receive_unnumbered (w : Worker) (task : Task) (outcome : Course.Outcome) (c : Course σ)
    (d : Course Unit) :
    (w.unnumbered.receive task outcome.unnumbered d).1 =
      (w.receive task outcome c).1.map Worker.unnumbered := by
  cases task with
  | hook step =>
      cases outcome with
      | failed cause =>
          exact congrArg Except.ok (fail_hook_unnumbered w cause c d)
      | _ => rfl
  | _ => cases outcome <;> rfl

theorem settle_unnumbered {script : Script} {call : Call} {promise : Promise}
    (ending : promise.ending = script.ending call.unnumbered) (c : Course σ) :
    (c.settle call promise).1.unnumbered = script.outcome call.unnumbered := by
  cases call <;> cases said : promise.ending <;>
    · rw [said] at ending
      simp only [Call.unnumbered] at ending ⊢
      simp only [Course.settle, said, Script.outcome, ← ending]
      rfl

-- With no effort and no ticks the clock stands still while a worker works.
def Still (c later : Course σ) : Prop :=
  c.tick = 0 → later.now = c.now ∧ later.tick = 0

theorem still_kept {services : Services σ} {P : Promise → Prop}
    (promised : ∀ call world, P (services.take call world).1)
    (idle : ∀ promise, P promise → promise.effort = 0) : Kept services Still fun _ => P where
  refl _ still := ⟨rfl, still⟩
  trans early late still := by
    obtain ⟨now, still⟩ := early still
    exact ⟨(late still).1.trans now, (late still).2⟩
  reads c still := ⟨by simp [Course.readClock, Course.advanceTo, still], still⟩
  closes c line still := by
    cases line <;> exact ⟨rfl, still⟩
  takes c call still := by
    cases call <;> exact ⟨rfl, still⟩
  promised c call := promised call c.world
  carries _ held := held
  settles c call promise held still := by
    have elapsed : (c.elapse promise).now = c.now := by
      simp [Course.elapse, Course.advanceTo, idle promise held]
    rcases Course.settle_course c call promise with same | ⟨opened, entry, -, same⟩
    · rw [same]
      exact ⟨elapsed, still⟩
    · rw [same]
      exact ⟨elapsed, still⟩

-- What a script says about how an execution that stands like this at a moment will end.
def Standing.Foretold (script : Script) (standing : Standing) (now : Moment)
    (expected : Standing × Moment) : Prop :=
  match standing with
  | .waiting nap =>
    nap.promise.ending = script.ending nap.call.unnumbered ∧
      nap.outlook script (now + nap.promise.delay) = expected
  | standing => expected = (standing, now)

theorem resume_foretold_if {script : Script} {services : Services σ}
    (governs : script.Governs services) (nap : Nap)
    (works : ∀ w (c : Course σ), c.tick = 0 → (work services nap.rest w c).1.Foretold script c.now
      (outlook script nap.rest w.unnumbered c.now))
    (effort : nap.promise.effort = 0) (ending : nap.promise.ending = script.ending nap.call.unnumbered)
    (c : Course σ) (still : c.tick = 0) :
    (nap.resume services c).1.Foretold script c.now (nap.outlook script c.now) := by
  have kept := still_kept governs.effort fun _ => id
  have settled := kept.settles c nap.call nap.promise effort still
  have received := receive_kept kept nap.worker nap.task (c.settle nap.call nap.promise).1
    (c.settle nap.call nap.promise).2 settled.2
  rw [settled.1] at received
  have same := receive_unnumbered nap.worker nap.task (c.settle nap.call nap.promise).1
    (c.settle nap.call nap.promise).2 (clockAt 0)
  rw [settle_unnumbered ending] at same
  rcases resume_cases services nap c with ⟨w, c', receives, goes⟩ | ⟨panic, c', receives, goes⟩
  · rw [receives] at received same
    have later := works w c' received.2
    rw [received.1] at later
    rw [goes, Nap.outlook, same]
    exact later
  · rw [receives] at same
    rw [goes, Nap.outlook, same]
    rfl

theorem work_foretold {script : Script} {services : Services σ} (governs : script.Governs services)
    (todo : List Task) (w : Worker) (c : Course σ) (still : c.tick = 0) :
    (work services todo w c).1.Foretold script c.now (outlook script todo w.unnumbered c.now) := by
  have kept := still_kept governs.effort fun _ => id
  induction todo generalizing w c with
  | nil =>
      cases result : w.result <;>
        simp [work, outlook, Worker.unnumbered, result, Standing.Foretold]
  | cons task rest ih =>
      have named := call_unnumbered w task
      have same := pass_unnumbered w task c
      have passed := pass_kept kept w task c still
      rcases work_cases services task rest w c with
        ⟨w', c', calls, passes, goes⟩ | ⟨cause, c', calls, passes, goes⟩ | ⟨call, calls, goes⟩
      · rw [calls, Option.map_none] at named
        rw [passes] at same passed
        have later := ih w' c' passed.2
        rw [passed.1] at later
        simp only [goes, outlook, named, same]
        exact later
      · rw [calls, Option.map_none] at named
        rw [passes] at same
        simp only [goes, outlook, named, same]
        rfl
      · rw [calls, Option.map_some] at named
        have delay := governs.delay call c.world
        have ending := governs.ending call c.world
        have effort := governs.effort call c.world
        have taken := kept.takes c call still
        have foreseen : outlook script (task :: rest) w.unnumbered c.now =
            (Nap.mk w task call (c.take services call).1 rest).outlook script
              (c.now + (c.take services call).1.delay) := by
          simp only [outlook, named, Nap.outlook]
          rw [← delay]
          rfl
        rw [goes, foreseen]
        split
        · rename_i instant
          have resumed := resume_foretold_if governs ⟨w, task, call, _, rest⟩ ih effort ending
            (c.take services call).2 taken.2
          rw [taken.1] at resumed
          rw [instant]
          exact resumed
        · exact ⟨ending, rfl⟩

theorem resume_foretold {script : Script} {services : Services σ} (governs : script.Governs services)
    {nap : Nap} (effort : nap.promise.effort = 0)
    (ending : nap.promise.ending = script.ending nap.call.unnumbered) (c : Course σ)
    (still : c.tick = 0) :
    (nap.resume services c).1.Foretold script c.now (nap.outlook script c.now) :=
  resume_foretold_if governs nap (fun w c still => work_foretold governs nap.rest w c still) effort ending c
    still

def weigh (subject : Subject) : List (Requirement × (Subject → Answer)) → List Measurement → Answer
  | [], heard => ⟨0, .ok heard⟩
  | (requirement, answers) :: rest, heard =>
    match requirement.heed heard (answers subject).finding with
    | .ok found =>
      ⟨(answers subject).delay + (weigh subject rest found).delay, (weigh subject rest found).finding⟩
    | .error halt => ⟨(answers subject).delay, .error halt⟩

def Script.answer (script : Script) (subject : Subject) (asked : Nat) : Finding → Answer
  | .ok heard => weigh subject (script.providers.drop asked) heard
  | .error halt => ⟨0, .error halt⟩

def Script.Foretells (script : Script) (subject : Subject) (expected : Answer) :
    Collector.Round → Prop
  | .waiting delay heard asked =>
    expected = ⟨delay + (script.answer subject asked heard).delay,
      (script.answer subject asked heard).finding⟩
  | .done finding => expected = ⟨0, finding⟩

theorem go_on_foretold {script : Script} {services : Services σ} (governs : script.Governs services)
    (subject : Subject) (asked : Nat) (heard : Finding) (world : σ) :
    script.Foretells subject (script.answer subject asked heard)
      (services.collector.goOn subject asked heard world).1 := by
  have asks (rest : Collector σ) (scripted : List (Requirement × (Subject → Answer)))
      (same : List.Forall₂
        (fun x y => x.1 = y.1 ∧ ∀ subject world, (x.2 subject world).1 = y.2 subject) rest scripted)
      (asked : Nat) (behind : script.providers.drop asked = scripted) (heard : List Measurement)
      (world : σ) :
      script.Foretells subject (weigh subject scripted heard)
        (Collector.ask subject rest asked heard world).1 := by
    induction same generalizing asked heard world with
    | nil => rfl
    | @cons x y rest scripted own others ih =>
        obtain ⟨requirement, provider⟩ := x
        obtain ⟨needed, answers⟩ := y
        obtain ⟨needs, alike⟩ := own
        dsimp only at needs alike
        subst needs
        obtain ⟨-, later⟩ := Collector.drop_next behind
        rw [Collector.ask, weigh]
        dsimp only
        rw [alike subject world]
        by_cases instant : (answers subject).delay = 0
        · rw [if_pos instant, instant]
          cases requirement.heed heard (answers subject).finding with
          | error halt => rfl
          | ok found => simpa only [Nat.zero_add] using ih (asked + 1) later found _
        · rw [if_neg instant]
          cases requirement.heed heard (answers subject).finding with
          | error halt => rfl
          | ok found => simp only [Script.Foretells, Script.answer, later]
  cases heard with
  | ok heard => exact asks _ _ (List.forall₂_drop asked governs.providers) asked rfl heard world
  | error halt => rfl

end Pool

end SqlBench
