import SqlBench.Pool.Worker

set_option autoImplicit false

namespace SqlBench

structure Pool (σ : Type) where
  services : Services σ
  concurrency : Nat
  stopOnFailure : Bool
  -- The moment at which nothing new starts any more.
  deadline : Option Moment
  isQuiet : Bool
  -- Whether a breakdown counts as a failed execution.
  recordsCrashes : Bool

namespace Pool

inductive Fate where
  | finished (r : ExecutionResult)
  | crashed (panic : String)
  | dropped (cause : Failure)
  | skipped

-- What an execution under way waits for: a call of its own, or the next answer of the providers.
inductive Wait where
  | call (nap : Nap)
  | answer (r : ExecutionResult) (heard : Finding) (asked : Nat)

def Wait.holdsPermit : Wait → Bool
  | .call _ => true
  | .answer .. => false

structure Sleeper where
  place : Nat
  execution : Execution
  wakes : Moment
  wait : Wait

structure Crash where
  place : Nat
  execution : Execution
  panic : String

structure State (σ : Type) where
  queue : List (Nat × Execution)
  running : List Sleeper
  -- In the order in which the executions were done.
  fates : List (Nat × Fate)
  crash : Option Crash
  hasStopped : Bool
  course : Course σ

variable {σ : Type}

def permits (p : Pool σ) : Nat :=
  max p.concurrency 1

def greatestPermits : Nat := Nat.pow 2 61 - 1

-- A pool is set up with a semaphore, which panics over more permits than it can count.
def setUp (p : Pool σ) : Except Halt Unit :=
  if p.permits ≤ greatestPermits then .ok ()
  else
    let most := toString greatestPermits
    .error (.crashed s!"a semaphore may not have more than MAX_PERMITS permits ({most})")

def isOver (p : Pool σ) (now : Moment) : Bool :=
  p.deadline.any fun t => t ≤ now

def isInterrupted (p : Pool σ) (c : Course σ) : Bool :=
  c.isStopped || p.isOver c.now

def isStopped (p : Pool σ) (s : State σ) : Bool :=
  s.hasStopped || p.isInterrupted s.course

def post (p : Pool σ) (event : Event) (c : Course σ) : Course σ :=
  if p.isQuiet then c else c.post event

def recordedCrash (e : Execution) (panic : String) (now : Moment) :
    Except Failure ExecutionResult := do
  let r ← (Recording.blank e).startTimer now
  (r.fail (.illegal (.crashed e.label panic))).stopTimer now

def State.conclude (s : State σ) (place : Nat) (fate : Fate) : State σ :=
  { s with fates := s.fates ++ [(place, fate)] }

def State.permitsInUse (s : State σ) : Nat :=
  s.running.countP fun x => x.wait.holdsPermit

def State.sleep (s : State σ) (place : Nat) (e : Execution) (delay : Span) (wait : Wait) : State σ :=
  { s with running := s.running ++ [⟨place, e, s.course.now + delay, wait⟩] }

def record (p : Pool σ) (place : Nat) (r : ExecutionResult) (s : State σ) : State σ :=
  { s.conclude place (.finished r) with
    hasStopped := s.hasStopped || (p.stopOnFailure && !r.isSuccessful)
    course := p.post (.executionFinished r) s.course }

def notice (p : Pool σ) (crash : Option Crash) (s : State σ) : State σ :=
  match crash with
  | none => s
  | some x =>
    if p.recordsCrashes then
      match recordedCrash x.execution x.panic s.course.now with
      | .ok r => p.record x.place r s
      | .error cause => s.conclude x.place (.dropped cause)
    else s.conclude x.place (.crashed x.panic)

-- Asks the providers about a finished execution, whose permit is free again.
def inquire (p : Pool σ) (index : Nat) (e : Execution) (r : ExecutionResult) (asked : Nat)
    (heard : Finding) (s : State σ) : State σ :=
  let (round, world) := p.services.collector.goOn (.execution r) asked heard s.course.world
  let s := { s with course := { s.course with world := world } }
  match round with
  | .waiting delay heard asked => s.sleep index e delay (.answer r heard asked)
  | .done (.ok found) => p.record index { r with measurements := found } s
  | .done (.error (.failed cause)) => p.record index (r.fail cause) s
  | .done (.error (.crashed panic)) => { s with crash := some ⟨index, e, panic⟩ }

def follow (p : Pool σ) (index : Nat) (e : Execution) (standing : Standing) (s : State σ) :
    State σ :=
  match standing with
  | .waiting nap => s.sleep index e nap.promise.delay (.call nap)
  | .finished r => p.inquire index e r 0 (.ok []) s
  | .dropped cause => s.conclude index (.dropped cause)
  | .crashed panic => { s with crash := some ⟨index, e, panic⟩ }

def launch (p : Pool σ) (index : Nat) (e : Execution) (s : State σ) : State σ :=
  let c := p.post (.executionStarted e) s.course
  let (standing, c) := work p.services (tasks p.services e) (.start e) c
  p.follow index e standing { s with course := c }

def skip (s : State σ) (waiting : List (Nat × Execution)) : State σ :=
  { s with queue := [], fates := s.fates ++ waiting.map fun x => (x.1, .skipped) }

def grant (p : Pool σ) : List (Nat × Execution) → State σ → State σ
  | [], s => p.notice s.crash { s with queue := [], crash := none }
  | x :: rest, s =>
    if p.isStopped s then p.notice s.crash (skip { s with crash := none } (x :: rest))
    else if s.permitsInUse < p.permits then
      let begun := p.launch x.1 x.2 { s with queue := rest, crash := none }
      grant p rest (p.notice s.crash begun)
    else p.notice s.crash { s with queue := x :: rest, crash := none }

def wakesFirst (a b : Sleeper) : Bool :=
  a.wakes ≤ b.wakes

-- The one that wakes first, among equals the one that waits longest, and the others.
def next? : List Sleeper → Option (Sleeper × List Sleeper)
  | [] => none
  | a :: rest =>
    match next? rest with
    | none => some (a, [])
    | some (b, others) => if wakesFirst a b then some (a, rest) else some (b, a :: others)

def resume (p : Pool σ) (x : Sleeper) (s : State σ) : State σ :=
  match x.wait with
  | .call nap =>
    let (standing, c) := nap.resume p.services s.course
    p.follow x.place x.execution standing { s with course := c }
  | .answer r heard asked => p.inquire x.place x.execution r asked heard s

def turn (p : Pool σ) (s : State σ) : State σ :=
  match next? s.running with
  | none => s
  | some (x, others) =>
    let woken := { s with running := others, course := s.course.advanceTo x.wakes }
    p.grant s.queue (p.resume x woken)

def turns (p : Pool σ) : Nat → State σ → State σ
  | 0, s => s
  | n + 1, s => turns p n (p.turn s)

-- An execution wakes at most once for each of its tasks and for each provider.
def workload (p : Pool σ) (executions : List Execution) : Nat :=
  executions.foldl
    (fun n e => n + (tasks p.services e).length + p.services.collector.length + 1) 0

def State.start (executions : List Execution) (c : Course σ) : State σ :=
  ⟨executions.zipIdx.map fun x => (x.2, x.1), [], [], none, false, c⟩

def run (p : Pool σ) (executions : List Execution) (c : Course σ) : State σ :=
  let s := State.start executions c
  p.turns (p.workload executions) (p.grant s.queue s)

def insertByNumber (r : ExecutionResult) : List ExecutionResult → List ExecutionResult
  | [] => [r]
  | x :: rest =>
    if x.execution.number ≤ r.execution.number then x :: insertByNumber r rest
    else r :: x :: rest

-- Results in the order of their numbers; those of one number stay in their order.
def byNumber (results : List ExecutionResult) : List ExecutionResult :=
  results.foldl (fun sorted r => insertByNumber r sorted) []

def State.results (s : State σ) : List ExecutionResult :=
  byNumber (s.fates.filterMap fun
    | (_, .finished r) => some r
    | _ => none)

end Pool

end SqlBench
