import SqlBench.Event
import SqlBench.Services

set_option autoImplicit false

namespace SqlBench

structure StopRequest where
  made : Bool
  moment : Option Moment
  deriving DecidableEq, Repr, Inhabited

namespace StopRequest

def never : StopRequest := ⟨false, none⟩

def holds (r : StopRequest) (now : Moment) : Bool :=
  r.made || r.moment.any fun t => t ≤ now

end StopRequest

inductive Occasion where
  | beforeAll
  | afterAll
  | healthCheck (b : Benchmark)
  | beforeBenchmark (b : Benchmark)
  | afterBenchmark (b : Benchmark)
  deriving DecidableEq

inductive Entry where
  | posted (event : Event)
  | hooks (occasion : Occasion) (names : List String)
  | commanded (hook : String)
  | connected (c : Connection)
  | refused (source : String)
  | sent (c : Connection) (statement : String)
  | closed (c : Connection)

structure Course (σ : Type) where
  now : Moment
  -- How far reading the clock for the record moves it.
  tick : Span
  stop : StopRequest
  opened : Nat
  journal : List (Moment × Entry)
  world : σ

namespace Course

variable {σ : Type}

def start (stop : StopRequest) (world : σ) : Course σ :=
  ⟨0, 0, stop, 0, [], world⟩

def isStopped (c : Course σ) : Bool :=
  c.stop.holds c.now

def note (c : Course σ) (entry : Entry) : Course σ :=
  { c with journal := c.journal ++ [(c.now, entry)] }

def post (c : Course σ) (event : Event) : Course σ :=
  c.note (.posted event)

def close (c : Course σ) : Option Connection → Course σ
  | some line => c.note (.closed line)
  | none => c

def advanceTo (c : Course σ) (t : Moment) : Course σ :=
  { c with now := max c.now t }

def readClock (c : Course σ) : Moment × Course σ :=
  (c.now, c.advanceTo (c.now + c.tick))

def entryAtStart : Call → Option Entry
  | .connect _ => none
  | .send line statement => some (.sent line statement)
  | .shell hook _ _ => some (.commanded hook)

def take (c : Course σ) (services : Services σ) (call : Call) : Promise × Course σ :=
  let (promise, world) := services.take call c.world
  let noted :=
    match entryAtStart call with
    | some entry => c.note entry
    | none => c
  (promise, { noted with world := world })

inductive Outcome where
  | connected (line : Connection)
  | rows (count : Nat) (queryId : Option String)
  | done
  | failed (cause : Failure)
  | crashed (panic : String)
  deriving DecidableEq

def settle (c : Course σ) (call : Call) (promise : Promise) : Outcome × Course σ :=
  let c := c.advanceTo (c.now + promise.effort)
  let c := { c with stop := ⟨c.stop.made || promise.requestsStop, c.stop.moment⟩ }
  match call, promise.ending with
  | .connect source, .failed cause => (.failed cause, c.note (.refused source))
  | .connect _, .crashed panic => (.crashed panic, c)
  | .connect source, _ =>
    let line : Connection := ⟨c.opened, source⟩
    (.connected line, { c with opened := c.opened + 1 }.note (.connected line))
  | _, .failed cause => (.failed cause, c)
  | _, .crashed panic => (.crashed panic, c)
  | _, .rows count queryId => (.rows count queryId, c)
  | _, .done => (.done, c)

def await (c : Course σ) (services : Services σ) (call : Call) : Outcome × Course σ :=
  let (promise, c) := c.take services call
  (c.advanceTo (c.now + promise.delay)).settle call promise

def collect (c : Course σ) (subject : Subject) : Collector σ → List Measurement → Finding × Course σ
  | [], heard => (.ok heard, c)
  | (requirement, provider) :: rest, heard =>
    let (answer, world) := provider subject c.world
    let c := ({ c with world := world } : Course σ).advanceTo (c.now + answer.delay)
    match requirement.heed heard answer.finding with
    | .ok heard => c.collect subject rest heard
    | .error halt => (.error halt, c)

def andThen {ε α β : Type} (done : Except ε α × Course σ)
    (next : α → Course σ → Except ε β × Course σ) : Except ε β × Course σ :=
  match done with
  | (.ok a, c) => next a c
  | (.error e, c) => (.error e, c)

def events (c : Course σ) : List (Moment × Event) :=
  c.journal.filterMap fun
    | (t, .posted event) => some (t, event)
    | _ => none

end Course

end SqlBench
