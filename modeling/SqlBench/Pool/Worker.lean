import SqlBench.Hook.Step

set_option autoImplicit false

namespace SqlBench.Pool

inductive Task where
  | hook (step : Hook.Step)
  | startTimer
  | dial
  | send
  | stopTimer
  deriving DecidableEq

def tasks {σ : Type} (services : Services σ) (e : Execution) : List Task :=
  let hooks (isConnected : Bool) (names : List String) : List Task :=
    let s : Hook.Setting := ⟨some e.benchmark, e.hookAttributes, isConnected⟩
    (names.flatMap (Hook.steps services s)).map Task.hook
  hooks false e.benchmark.beforeExecution ++ [.startTimer, .dial, .send, .stopTimer] ++
    hooks true e.benchmark.afterExecution

structure Worker where
  recording : Recording
  result : Option ExecutionResult
  -- The execution's own connection is the one that the hooks behind it are given.
  lines : Hook.Lines
  isSkipping : Bool

namespace Worker

def start (e : Execution) : Worker :=
  ⟨.blank e, none, ⟨none, none⟩, false⟩

def fail (w : Worker) (cause : Failure) : Worker :=
  match w.result with
  | some r => { w with result := some (r.fail cause) }
  | none => { w with recording := w.recording.fail cause }

def call? (w : Worker) : Task → Option Call
  | .hook step => if w.isSkipping then none else step.call? w.lines
  | .dial =>
    if w.recording.hasFailed then none
    else some (.connect w.recording.execution.benchmark.dataSource)
  | .send => w.lines.given.map fun line => .send line w.recording.execution.statement
  | .startTimer => none
  | .stopTimer => none

variable {σ : Type}

def failHook (w : Worker) (cause : Failure) (c : Course σ) : Worker × Course σ :=
  ({ w.fail cause with lines := { w.lines with own := none }, isSkipping := true },
    c.close w.lines.own)

def pass (w : Worker) (task : Task) (c : Course σ) : Except Failure Worker × Course σ :=
  match task with
  | .hook (.refuse cause) =>
    if w.isSkipping then (.ok w, c)
    else
      let (w, c) := w.failHook cause c
      (.ok w, c)
  | .hook .hangUp =>
    (.ok { w with lines := { w.lines with own := none } }, c.close w.lines.own)
  | .hook _ => (.ok w, c)
  | .startTimer =>
    let (now, c) := c.readClock
    match w.recording.startTimer now with
    | .ok r => (.ok { w with recording := r, isSkipping := false }, c)
    | .error cause => (.error cause, c)
  | .dial => (.ok w, c)
  | .send => (.ok w, c)
  | .stopTimer =>
    let (now, c) := c.readClock
    match w.recording.stopTimer now with
    | .ok r => (.ok { w with result := some r, isSkipping := w.lines.given.isNone }, c)
    | .error cause => (.error cause, c)

def receive (w : Worker) (task : Task) (outcome : Course.Outcome) (c : Course σ) :
    Except String Worker × Course σ :=
  match task, outcome with
  | .hook _, outcome =>
    match w.lines.receive outcome with
    | .ok lines => (.ok { w with lines := lines }, c)
    | .error (.failed cause) =>
      let (w, c) := w.failHook cause c
      (.ok w, c)
    | .error (.crashed panic) => (.error panic, c)
  | _, .connected line => (.ok { w with lines := { w.lines with given := some line } }, c)
  | _, .rows count queryId =>
    (.ok { w with recording := (w.recording.setRows count).setQueryId queryId }, c)
  | _, .failed cause => (.ok { w with recording := w.recording.fail cause }, c)
  | _, .crashed panic => (.error panic, c)
  | _, .done => (.ok w, c)

end Worker

structure Nap where
  worker : Worker
  task : Task
  call : Call
  promise : Promise
  rest : List Task

inductive Standing where
  | waiting (nap : Nap)
  | finished (r : ExecutionResult)
  | dropped (cause : Failure)
  | crashed (panic : String)

variable {σ : Type}

def closeAll (w : Worker) (c : Course σ) : Course σ :=
  (c.close w.lines.own).close w.lines.given

def work (services : Services σ) : List Task → Worker → Course σ → Standing × Course σ
  | [], w, c =>
    match w.result with
    | some r => (.finished r, closeAll w c)
    | none => (.dropped (.illegal (.timerNotStarted w.recording.execution.label)), closeAll w c)
  | task :: rest, w, c =>
    match w.call? task with
    | none =>
      match w.pass task c with
      | (.ok w, c) => work services rest w c
      | (.error cause, c) => (.dropped cause, closeAll w c)
    | some call =>
      let (promise, c) := c.take services call
      if promise.delay = 0 then
        let (outcome, c) := c.settle call promise
        match w.receive task outcome c with
        | (.ok w, c) => work services rest w c
        | (.error panic, c) => (.crashed panic, closeAll w c)
      else (.waiting ⟨w, task, call, promise, rest⟩, c)

def Nap.resume (services : Services σ) (nap : Nap) (c : Course σ) : Standing × Course σ :=
  let (outcome, c) := c.settle nap.call nap.promise
  match nap.worker.receive nap.task outcome c with
  | (.ok w, c) => work services nap.rest w c
  | (.error panic, c) => (.crashed panic, closeAll nap.worker c)

end SqlBench.Pool
