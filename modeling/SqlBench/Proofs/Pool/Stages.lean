import SqlBench.Proofs.Hook
import SqlBench.Proofs.Pool.Proceeding

set_option autoImplicit false

namespace SqlBench

variable {σ : Type} {services : Services σ} {others : Course σ → Course σ → Prop}

namespace Course

def Outcome.cause? : Outcome → Option Failure
  | .failed cause => some cause
  | _ => none

def Outcome.rowCount : Outcome → Nat
  | .rows count _ => count
  | _ => 0

def Outcome.queryId? : Outcome → Option String
  | .rows _ queryId => queryId
  | _ => none

theorem dialled_cases {source : String} {c later : Course σ} {outcome : Outcome}
    (awaited : Awaited services others (.connect source) c outcome later) :
    (∃ line, outcome = .connected line) ∨ (∃ cause, outcome = .failed cause) ∨
      ∃ panic, outcome = .crashed panic := by
  obtain ⟨mid, -, same⟩ := awaited
  obtain rfl : outcome = _ := congrArg Prod.fst same
  cases ending : (c.take services (.connect source)).1.ending <;> simp [settle, ending]

theorem undialled {call : Call} (other : ∀ source, call ≠ .connect source) {c later : Course σ}
    {outcome : Outcome} (awaited : Awaited services others call c outcome later) (line : Connection) :
    outcome ≠ .connected line := by
  obtain ⟨mid, -, same⟩ := awaited
  obtain rfl : outcome = _ := congrArg Prod.fst same
  generalize (c.take services call).1 = promise
  cases call with
  | connect source => exact absurd rfl (other source)
  | _ => cases ending : promise.ending <;> simp [settle, ending]

end Course

namespace Hook

-- Hooks at work, up to their end or to the first that fails. None of their calls panics.
inductive Goes (services : Services σ) (others : Course σ → Course σ → Prop) :
    List Step → Lines → Course σ → Except Failure Lines → Course σ → Prop where
  | done {lines : Lines} {c : Course σ} : Goes services others [] lines c (.ok lines) c
  | refused {cause : Failure} {rest : List Step} {lines : Lines} {c : Course σ} :
      Goes services others (.refuse cause :: rest) lines c (.error cause) (c.close lines.own)
  | hungUp {rest : List Step} {lines : Lines} {c later : Course σ} {outcome : Except Failure Lines}
      (behind : Goes services others rest { lines with own := none } (c.close lines.own) outcome later) :
      Goes services others (.hangUp :: rest) lines c outcome later
  | unsent {statement : String} {rest : List Step} {lines : Lines} {c later : Course σ}
      {outcome : Except Failure Lines} (nowhere : (Step.send statement).call? lines = none)
      (behind : Goes services others rest lines c outcome later) :
      Goes services others (.send statement :: rest) lines c outcome later
  | answered {step : Step} {rest : List Step} {lines next : Lines} {c settled later : Course σ}
      {call : Call} {answer : Course.Outcome} {outcome : Except Failure Lines}
      (calls : step.call? lines = some call)
      (awaited : Course.Awaited services others call c answer settled)
      (receives : lines.receive answer = .ok next)
      (behind : Goes services others rest next settled outcome later) :
      Goes services others (step :: rest) lines c outcome later
  | failed {step : Step} {rest : List Step} {lines : Lines} {c settled : Course σ} {call : Call}
      {cause : Failure} (calls : step.call? lines = some call)
      (awaited : Course.Awaited services others call c (.failed cause) settled) :
      Goes services others (step :: rest) lines c (.error cause) (settled.close lines.own)

def Step.opens (isOpen : Bool) : Step → Bool
  | .dial _ => true
  | .hangUp => false
  | _ => isOpen

theorem goes_lines {steps : List Step} {lines : Lines} {c later : Course σ}
    {outcome : Except Failure Lines} (goes : Goes services others steps lines c outcome later)
    {next : Lines} (ok : outcome = .ok next) :
    next.given = lines.given ∧ next.own.isSome = steps.foldl Step.opens lines.own.isSome := by
  induction goes with
  | done =>
      cases ok
      exact ⟨rfl, rfl⟩
  | refused => cases ok
  | hungUp behind ih => exact ih ok
  | unsent nowhere behind ih => exact ih ok
  | @answered step rest lines received c settled later call answer outcome calls awaited receives behind ih =>
      obtain ⟨given, own⟩ := ih ok
      refine ⟨given.trans (receive_given receives), own.trans ?_⟩
      rw [List.foldl_cons]
      congr 1
      cases step with
      | refuse cause => cases calls
      | hangUp => cases calls
      | dial source =>
          cases calls
          rcases Course.dialled_cases awaited with ⟨line, rfl⟩ | ⟨cause, rfl⟩ | ⟨panic, rfl⟩
          · cases receives
            rfl
          · cases receives
          · cases receives
      | shell hook command environment =>
          cases calls
          have undialled := Course.undialled (by simp) awaited
          cases answer with
          | connected line => exact absurd rfl (undialled line)
          | _ => cases receives <;> rfl
      | send statement =>
          obtain ⟨line, -, rfl⟩ := Option.map_eq_some_iff.mp calls
          have undialled := Course.undialled (by simp) awaited
          cases answer with
          | connected line => exact absurd rfl (undialled line)
          | _ => cases receives <;> rfl
  | failed calls awaited => cases ok

theorem goes_closed {steps : List Step} (closes : steps.foldl Step.opens false = false)
    {given : Option Connection} {next : Lines} {c later : Course σ}
    (goes : Goes services others steps ⟨given, none⟩ c (.ok next) later) : next = ⟨given, none⟩ := by
  obtain ⟨same, own⟩ := goes_lines goes rfl
  rw [Option.isSome_none, closes, Option.isSome_eq_false_iff, Option.isNone_iff_eq_none] at own
  obtain ⟨_, _⟩ := next
  cases same
  cases own
  rfl

theorem steps_close (services : Services σ) (s : Setting) (names : List String) :
    (names.flatMap (steps services s)).foldl Step.opens false = false := by
  have sends : ∀ (statements : List String) (isOpen : Bool),
      (statements.map Step.send).foldl Step.opens isOpen = isOpen := by
    intro statements isOpen
    induction statements with
    | nil => rfl
    | cons statement rest ih => exact ih
  induction names with
  | nil => rfl
  | cons name names ih =>
      have front : (steps services s name).foldl Step.opens false = false := by
        rw [steps]
        split
        · rfl
        · split <;> rfl
        · rw [querySteps]
          split
          · rfl
          · split
            · rfl
            · split
              · exact sends _ false
              · simp [sends, Step.opens]
      rw [List.flatMap_cons, List.foldl_append, front, ih]

end Hook

namespace Pool

section Hooks

variable {steps : List Hook.Step} {rest : List Task} {w : Worker} {c later : Course σ}
  {r : ExecutionResult}

theorem proceeds_silent {task : Task} (silent : w.call? task = none)
    (proceeds : Proceeds services others (task :: rest) w c (.finished r) later) :
    ∃ next mid, w.pass task c = (.ok next, mid) ∧
      Proceeds services others rest next mid (.finished r) later := by
  cases proceeds with
  | passed _ passes behind => exact ⟨_, _, passes, behind⟩
  | received calls => cases silent.symm.trans calls

theorem proceeds_called {task : Task} {call : Call} (calls : w.call? task = some call)
    (proceeds : Proceeds services others (task :: rest) w c (.finished r) later) :
    ∃ outcome settled next mid, Course.Awaited services others call c outcome settled ∧
      w.receive task outcome settled = (.ok next, mid) ∧
        Proceeds services others rest next mid (.finished r) later := by
  cases proceeds with
  | passed silent => cases silent.symm.trans calls
  | received same awaited receives behind =>
      cases same.symm.trans calls
      exact ⟨_, _, _, _, awaited, receives, behind⟩

theorem proceeds_skipping (skipping : w.isSkipping = true) (closed : w.lines.own = none)
    (proceeds : Proceeds services others (steps.map Task.hook ++ rest) w c (.finished r) later) :
    Proceeds services others rest w c (.finished r) later := by
  induction steps with
  | nil => exact proceeds
  | cons step steps ih =>
      have silent : w.call? (.hook step) = none := by simp [Worker.call?, skipping]
      obtain ⟨next, mid, passes, behind⟩ := proceeds_silent silent proceeds
      have same : w.pass (.hook step) c = (.ok w, c) := by
        cases step with
        | refuse cause => simp [Worker.pass, skipping]
        | hangUp =>
            obtain ⟨recording, result, ⟨given, own⟩, isSkipping⟩ := w
            cases closed
            rfl
        | _ => rfl
      cases same.symm.trans passes
      exact ih behind

def Worker.failed (w : Worker) (cause : Failure) : Worker :=
  { w.fail cause with lines := { w.lines with own := none }, isSkipping := true }

theorem failed_relined (w : Worker) (cause : Failure) {lines : Hook.Lines}
    (given : lines.given = w.lines.given) :
    ({ w with lines := lines } : Worker).failed cause = w.failed cause := by
  cases result : w.result <;> simp [Worker.failed, Worker.fail, result, given]

theorem proceeds_hooks (working : w.isSkipping = false)
    (proceeds : Proceeds services others (steps.map Task.hook ++ rest) w c (.finished r) later) :
    (∃ lines mid, Hook.Goes services others steps w.lines c (.ok lines) mid ∧
      Proceeds services others rest { w with lines := lines } mid (.finished r) later) ∨
    ∃ cause mid, Hook.Goes services others steps w.lines c (.error cause) mid ∧
      Proceeds services others rest (w.failed cause) mid (.finished r) later := by
  induction steps generalizing w c with
  | nil => exact .inl ⟨w.lines, c, .done, proceeds⟩
  | cons step steps ih =>
      have called : w.call? (.hook step) = step.call? w.lines := by simp [Worker.call?, working]
      cases calls : step.call? w.lines with
      | none =>
          obtain ⟨next, mid, passes, behind⟩ := proceeds_silent (called.trans calls) proceeds
          cases step with
          | refuse cause =>
              simp only [Worker.pass, working, Bool.false_eq_true, if_false] at passes
              cases passes
              exact .inr ⟨cause, _, .refused, proceeds_skipping rfl rfl behind⟩
          | hangUp =>
              cases passes
              rcases ih (by exact working) behind with ⟨lines, mid, goes, behind⟩ | ⟨cause, mid, goes, behind⟩
              · exact .inl ⟨lines, mid, .hungUp goes, behind⟩
              · rw [failed_relined w cause (by rfl)] at behind
                exact .inr ⟨cause, mid, .hungUp goes, behind⟩
          | send statement =>
              cases passes
              rcases ih (by exact working) behind with ⟨lines, mid, goes, behind⟩ | ⟨cause, mid, goes, behind⟩
              · exact .inl ⟨lines, mid, .unsent calls goes, behind⟩
              · exact .inr ⟨cause, mid, .unsent calls goes, behind⟩
          | _ => cases calls
      | some call =>
          obtain ⟨outcome, settled, next, mid, awaited, receives, behind⟩ :=
            proceeds_called (called.trans calls) proceeds
          cases outcome with
          | crashed panic => cases receives
          | failed cause =>
              cases receives
              exact .inr ⟨cause, _, .failed calls awaited, proceeds_skipping rfl rfl behind⟩
          | _ =>
              cases receives
              rcases ih (by exact working) behind with ⟨lines, mid, goes, behind⟩ | ⟨cause, mid, goes, behind⟩
              · exact .inl ⟨lines, mid, .answered calls awaited rfl goes, behind⟩
              · rw [failed_relined w cause (by rfl)] at behind
                exact .inr ⟨cause, mid, .answered calls awaited rfl goes, behind⟩

end Hooks

def hookSteps (services : Services σ) (e : Execution) (isConnected : Bool) (names : List String) :
    List Hook.Step :=
  names.flatMap (Hook.steps services ⟨some e.benchmark, e.hookAttributes, isConnected⟩)

structure Stages where
  prepared : Except Failure Unit
  dialled : Option Course.Outcome
  answered : Option Course.Outcome
  tidied : Option (Except Failure Unit)
  start : Moment
  finish : Moment
  -- How long connecting and the statement have taken.
  connecting : Span
  executing : Span

def failureOf {α : Type} : Except Failure α → Option Failure
  | .ok _ => none
  | .error cause => some cause

namespace Stages

def failure? (s : Stages) : Option Failure :=
  failureOf s.prepared <|> s.dialled.bind Course.Outcome.cause? <|>
    s.answered.bind Course.Outcome.cause? <|> s.tidied.bind failureOf

-- The result before measurements are collected for it.
def bare (s : Stages) (e : Execution) : ExecutionResult :=
  ⟨e, s.start, s.finish, (s.answered.map Course.Outcome.rowCount).getD 0,
    s.answered.bind Course.Outcome.queryId?, s.failure?, []⟩

end Stages

inductive Passes (services : Services σ) (others : Course σ → Course σ → Prop) (e : Execution)
    (c : Course σ) : Stages → Course σ → Prop where
  | unprepared {cause : Failure} {ready : Course σ}
      (before : Hook.Goes services others (hookSteps services e false e.benchmark.beforeExecution)
        ⟨none, none⟩ c (.error cause) ready) :
      Passes services others e c
        { prepared := .error cause
          dialled := none
          answered := none
          tidied := none
          start := ready.now
          finish := ready.readClock.2.now
          connecting := 0
          executing := 0 }
        ready.readClock.2.readClock.2
  | unconnected {cause : Failure} {ready dialled : Course σ}
      (before : Hook.Goes services others (hookSteps services e false e.benchmark.beforeExecution)
        ⟨none, none⟩ c (.ok ⟨none, none⟩) ready)
      (dials : Course.Awaited services others (.connect e.benchmark.dataSource) ready.readClock.2
        (.failed cause) dialled) :
      Passes services others e c
        { prepared := .ok ()
          dialled := some (.failed cause)
          answered := none
          tidied := none
          start := ready.now
          finish := dialled.now
          connecting := dialled.now - ready.readClock.2.now
          executing := 0 }
        dialled.readClock.2
  | connected {line : Connection} {answer : Course.Outcome} {outcome : Except Failure Hook.Lines}
      {ready dialled answered tidied : Course σ}
      (before : Hook.Goes services others (hookSteps services e false e.benchmark.beforeExecution)
        ⟨none, none⟩ c (.ok ⟨none, none⟩) ready)
      (dials : Course.Awaited services others (.connect e.benchmark.dataSource) ready.readClock.2
        (.connected line) dialled)
      (sends : Course.Awaited services others (.send line e.statement) dialled answer answered)
      (unbroken : ∀ panic, answer ≠ .crashed panic)
      (after : Hook.Goes services others (hookSteps services e true e.benchmark.afterExecution)
        ⟨some line, none⟩ answered.readClock.2 outcome tidied) :
      Passes services others e c
        { prepared := .ok ()
          dialled := some (.connected line)
          answered := some answer
          tidied := some (outcome.map fun _ => ())
          start := ready.now
          finish := answered.now
          connecting := dialled.now - ready.readClock.2.now
          executing := answered.now - dialled.now }
        (tidied.close (some line))

section Stages

variable {e : Execution} {steps : List Hook.Step} {rest : List Task} {c later : Course σ}
  {r : ExecutionResult}

def Worker.done (raw : ExecutionResult) (line : Option Connection) : Worker :=
  ⟨⟨raw.execution, some raw.start, raw.rows, raw.queryId, raw.failure⟩, some raw, ⟨line, none⟩, line.isNone⟩

theorem proceeds_undialled {cause : Failure}
    (proceeds : Proceeds services others (.startTimer :: .dial :: .send :: .stopTimer :: rest)
      ((Worker.start e).failed cause) c (.finished r) later) :
    Proceeds services others rest
      (.done ⟨e, c.now, c.readClock.2.now, 0, none, some cause, []⟩ none) c.readClock.2.readClock.2
      (.finished r) later := by
  obtain ⟨begun, mid, passes, proceeds⟩ := proceeds_silent rfl proceeds
  cases passes
  obtain ⟨begun, mid, passes, proceeds⟩ := proceeds_silent rfl proceeds
  cases passes
  obtain ⟨begun, mid, passes, proceeds⟩ := proceeds_silent rfl proceeds
  cases passes
  obtain ⟨begun, mid, passes, proceeds⟩ := proceeds_silent rfl proceeds
  cases passes
  exact proceeds

theorem proceeds_dialled
    (proceeds : Proceeds services others (.startTimer :: .dial :: .send :: .stopTimer :: rest)
      (.start e) c (.finished r) later) :
    (∃ cause dialled, Course.Awaited services others (.connect e.benchmark.dataSource) c.readClock.2
        (.failed cause) dialled ∧
      Proceeds services others rest (.done ⟨e, c.now, dialled.now, 0, none, some cause, []⟩ none)
        dialled.readClock.2 (.finished r) later) ∨
    ∃ line dialled answer answered, Course.Awaited services others (.connect e.benchmark.dataSource)
        c.readClock.2 (.connected line) dialled ∧
      Course.Awaited services others (.send line e.statement) dialled answer answered ∧
      (∀ panic, answer ≠ .crashed panic) ∧
      Proceeds services others rest
        (.done ⟨e, c.now, answered.now, answer.rowCount, answer.queryId?, answer.cause?, []⟩ (some line))
        answered.readClock.2 (.finished r) later := by
  obtain ⟨begun, mid, passes, proceeds⟩ := proceeds_silent rfl proceeds
  cases passes
  obtain ⟨outcome, dialled, next, mid, dials, receives, proceeds⟩ := proceeds_called rfl proceeds
  rcases Course.dialled_cases dials with ⟨line, rfl⟩ | ⟨cause, rfl⟩ | ⟨panic, rfl⟩
  · cases receives
    obtain ⟨answer, answered, next, mid, sends, receives, proceeds⟩ := proceeds_called rfl proceeds
    have undialled := Course.undialled (by simp) sends
    refine .inr ⟨line, dialled, answer, answered, dials, sends, ?_, ?_⟩
    · rintro panic rfl
      cases receives
    · cases answer with
      | crashed panic => cases receives
      | connected other => exact absurd rfl (undialled other)
      | _ =>
          cases receives
          obtain ⟨begun, mid, passes, proceeds⟩ := proceeds_silent rfl proceeds
          cases passes
          exact proceeds
  · cases receives
    obtain ⟨begun, mid, passes, proceeds⟩ := proceeds_silent rfl proceeds
    cases passes
    obtain ⟨begun, mid, passes, proceeds⟩ := proceeds_silent rfl proceeds
    cases passes
    exact .inl ⟨cause, dialled, dials, proceeds⟩
  · cases receives

theorem proceeds_ended {w : Worker} (proceeds : Proceeds services others [] w c (.finished r) later) :
    w.result = some r ∧ later = closeAll w c := by
  cases proceeds with
  | ended reported => exact ⟨reported, rfl⟩

theorem proceeds_unconnected {raw : ExecutionResult}
    (proceeds : Proceeds services others (steps.map Task.hook) (.done raw none) c (.finished r) later) :
    r = raw ∧ later = c := by
  rw [← List.append_nil (steps.map Task.hook)] at proceeds
  obtain ⟨reported, rfl⟩ := proceeds_ended (proceeds_skipping rfl rfl proceeds)
  cases reported
  exact ⟨rfl, rfl⟩

theorem proceeds_connected {raw : ExecutionResult} {line : Connection}
    (closes : steps.foldl Hook.Step.opens false = false)
    (proceeds : Proceeds services others (steps.map Task.hook) (.done raw (some line)) c (.finished r) later) :
    ∃ outcome tidied, Hook.Goes services others steps ⟨some line, none⟩ c outcome tidied ∧
      r = { raw with failure := raw.failure <|> failureOf outcome } ∧
      later = tidied.close (some line) := by
  rw [← List.append_nil (steps.map Task.hook)] at proceeds
  rcases proceeds_hooks rfl proceeds with ⟨lines, tidied, goes, behind⟩ | ⟨cause, tidied, goes, behind⟩
  · cases Hook.goes_closed closes goes
    obtain ⟨reported, rfl⟩ := proceeds_ended behind
    cases reported
    exact ⟨_, tidied, goes, by simp [failureOf], rfl⟩
  · obtain ⟨reported, rfl⟩ := proceeds_ended behind
    cases reported
    refine ⟨_, tidied, goes, ?_, rfl⟩
    cases failure : raw.failure <;> simp [ExecutionResult.fail, failureOf, failure]

theorem proceeds_stages (proceeds : Proceeds services others (tasks services e) (.start e) c (.finished r) later) :
    ∃ stages, Passes services others e c stages later ∧ r = stages.bare e := by
  have inOrder : tasks services e =
      (hookSteps services e false e.benchmark.beforeExecution).map Task.hook ++
        (.startTimer :: .dial :: .send :: .stopTimer ::
          (hookSteps services e true e.benchmark.afterExecution).map Task.hook) := by
    rw [tasks, List.append_assoc]
    rfl
  rw [inOrder] at proceeds
  rcases proceeds_hooks rfl proceeds with ⟨lines, ready, before, behind⟩ | ⟨cause, ready, before, behind⟩
  · cases Hook.goes_closed (Hook.steps_close services _ _) before
    rcases proceeds_dialled behind with
      ⟨cause, dialled, dials, behind⟩ | ⟨line, dialled, answer, answered, dials, sends, unbroken, behind⟩
    · obtain ⟨rfl, rfl⟩ := proceeds_unconnected behind
      exact ⟨_, .unconnected before dials, rfl⟩
    · obtain ⟨outcome, tidied, after, rfl, rfl⟩ := proceeds_connected (Hook.steps_close services _ _) behind
      exact ⟨_, .connected before dials sends unbroken after, by cases outcome <;> rfl⟩
  · obtain ⟨rfl, rfl⟩ := proceeds_unconnected (proceeds_undialled behind)
    exact ⟨_, .unprepared before, rfl⟩

end Stages

def Stages.Connects (s : Stages) : Prop :=
  ∃ line, s.dialled = some (.connected line)

structure Gates (s : Stages) : Prop where
  dialled : s.dialled.isSome = true ↔ s.prepared = .ok ()
  sent : s.answered.isSome = true ↔ s.prepared = .ok () ∧ s.Connects
  tidied : s.tidied.isSome = true ↔ s.Connects
  unprepared : s.prepared ≠ .ok () → s.connecting = 0 ∧ s.executing = 0

structure Records (e : Execution) (tick : Span) (s : Stages)
    (collected : Except Failure (List Measurement)) (r : ExecutionResult) : Prop where
  own : r.execution = e
  failure : r.failure = (s.failure? <|> failureOf collected)
  rows : r.rows = (s.answered.map Course.Outcome.rowCount).getD 0
  queryId : r.queryId = s.answered.bind Course.Outcome.queryId?
  duration : r.duration = tick + s.connecting + s.executing
  measurements : r.measurements = collected.toOption.getD []

section Records

variable {e : Execution} {c later : Course σ} {s : Stages}

theorem awaited_onward (goesOn : ∀ a b, others a b → a.Onward b) {call : Call}
    {outcome : Course.Outcome} (awaited : Course.Awaited services others call c outcome later) :
    c.Onward later := by
  obtain ⟨mid, between, same⟩ := awaited
  have settled := ((mid.silent_advance ((c.take services call).2.now + (c.take services call).1.delay)).trans
    (Course.silent_settle _ call (c.take services call).1)).toOnward
  rw [← congrArg Prod.snd same] at settled
  exact ((c.silent_take services call).toOnward.trans (goesOn _ _ between)).trans settled

theorem goes_onward (goesOn : ∀ a b, others a b → a.Onward b) {steps : List Hook.Step}
    {lines : Hook.Lines} {outcome : Except Failure Hook.Lines}
    (goes : Hook.Goes services others steps lines c outcome later) : c.Onward later := by
  induction goes with
  | done => exact .refl _
  | refused => exact (Course.silent_close _ _).toOnward
  | hungUp behind ih => exact (Course.silent_close _ _).toOnward.trans ih
  | unsent nowhere behind ih => exact ih
  | answered calls awaited receives behind ih => exact (awaited_onward goesOn awaited).trans ih
  | failed calls awaited => exact (awaited_onward goesOn awaited).trans (Course.silent_close _ _).toOnward

theorem elapsed {start tick first last : Nat} (one : start + tick ≤ first) (two : first ≤ last) :
    last - start = tick + (first - (start + tick)) + (last - first) := by
  omega

theorem passes_duration (goesOn : ∀ a b, others a b → a.Onward b)
    (passes : Passes services others e c s later) :
    s.start.spanTo s.finish = c.tick + s.connecting + s.executing := by
  have reads : ∀ ready : Course σ, c.Onward ready → ready.readClock.2.now = ready.now + c.tick := by
    intro ready onward
    simp [Course.readClock, Course.advanceTo, onward.tick]
  cases passes with
  | @unprepared cause ready before =>
      have read := reads ready (goes_onward goesOn before)
      simp [Moment.spanTo, read]
  | @unconnected cause ready dialled before dials =>
      have read := reads ready (goes_onward goesOn before)
      have onward := (awaited_onward goesOn dials).now
      rw [read] at onward
      have whole := elapsed onward (Nat.le_refl _)
      simpa [Moment.spanTo, read] using whole
  | @connected line answer outcome ready dialled answered tidied before dials sends =>
      have read := reads ready (goes_onward goesOn before)
      have onward := (awaited_onward goesOn dials).now
      rw [read] at onward
      have whole := elapsed onward (awaited_onward goesOn sends).now
      simpa [Moment.spanTo, read] using whole

theorem passes_gates (passes : Passes services others e c s later) : Gates s := by
  cases passes with
  | unprepared => exact ⟨by simp, by simp, by simp [Stages.Connects], fun _ => ⟨rfl, rfl⟩⟩
  | unconnected =>
      exact ⟨by simp, by simp [Stages.Connects], by simp [Stages.Connects], fun unready => absurd rfl unready⟩
  | connected =>
      exact ⟨by simp, by simp [Stages.Connects], by simp [Stages.Connects], fun unready => absurd rfl unready⟩

def Stages.result (s : Stages) (e : Execution) : Except Failure (List Measurement) → ExecutionResult
  | .ok found => { s.bare e with measurements := found }
  | .error cause => (s.bare e).fail cause

theorem passes_record (goesOn : ∀ a b, others a b → a.Onward b)
    (passes : Passes services others e c s later) (collected : Except Failure (List Measurement)) :
    Records e c.tick s collected (s.result e collected) := by
  have duration := passes_duration goesOn passes
  cases collected with
  | ok found =>
      refine ⟨rfl, ?_, rfl, rfl, duration, rfl⟩
      simp [Stages.result, Stages.bare, failureOf]
  | error cause =>
      refine ⟨rfl, ?_, rfl, rfl, duration, rfl⟩
      cases cause : s.failure? <;>
        simp [Stages.result, Stages.bare, ExecutionResult.fail, failureOf, cause]

end Records

end Pool

end SqlBench
