import SqlBench.Course
import SqlBench.Hook.Basic

set_option autoImplicit false

namespace SqlBench.Hook

inductive Step where
  | refuse (cause : Failure)
  | shell (hook command : String) (environment : Attributes)
  | dial (source : String)
  | send (statement : String)
  | hangUp
  deriving DecidableEq

structure Setting where
  benchmark : Option Benchmark
  attributes : Attributes
  isConnected : Bool

def Setting.around (b : Option Benchmark) : Setting :=
  ⟨b, (b.map benchmarkAttributes).getD Dict.empty, false⟩

def statements (queries : QueryFolder) (attributes : Attributes) (name : String) :
    Except Failure (Option String × List String) := do
  let f ← queries.load name
  let statements ← f.statements queries.environment attributes
  pure (f.property sourceProperty, statements)

def querySteps (queries : QueryFolder) (s : Setting) (name : String) : List Step :=
  match s.benchmark with
  | none => [.refuse (.invalid (.hookWithoutBenchmark name))]
  | some b =>
    match statements queries s.attributes name with
    | .error cause => [.refuse cause]
    | .ok (source, sends) =>
      if source.isNone && s.isConnected then sends.map Step.send
      else .dial (source.getD b.dataSource) :: sends.map Step.send ++ [.hangUp]

def steps {σ : Type} (services : Services σ) (s : Setting) (name : String) : List Step :=
  match lookup services.hooks name with
  | none => [.refuse (.undefinedHook name)]
  | some (.shell command) =>
    match usable? command with
    | none => [.refuse (.hookWithoutCommand name)]
    | some command => [.shell name command s.attributes]
  | some (.query file) => querySteps services.queries s file

structure Lines where
  given : Option Connection
  own : Option Connection
  deriving DecidableEq

def Step.call? (lines : Lines) : Step → Option Call
  | .refuse _ => none
  | .shell hook command environment => some (.shell hook command environment)
  | .dial source => some (.connect source)
  | .send statement => (lines.own <|> lines.given).map fun line => .send line statement
  | .hangUp => none

def Lines.receive (lines : Lines) : Course.Outcome → Except Halt Lines
  | .connected line => .ok { lines with own := some line }
  | .rows .. => .ok lines
  | .done => .ok lines
  | .failed cause => .error (.failed cause)
  | .crashed panic => .error (.crashed panic)

def perform {σ : Type} (services : Services σ) :
    List Step → Lines → Course σ → Except Halt Unit × Course σ
  | [], _, c => (.ok (), c)
  | .refuse cause :: _, lines, c => (.error (.failed cause), c.close lines.own)
  | .hangUp :: rest, lines, c =>
    perform services rest { lines with own := none } (c.close lines.own)
  | step :: rest, lines, c =>
    match step.call? lines with
    | none => perform services rest lines c
    | some call =>
      let (outcome, c) := c.await services call
      match lines.receive outcome with
      | .ok lines => perform services rest lines c
      | .error halt => (.error halt, c.close lines.own)

def runAll {σ : Type} (services : Services σ) (b : Option Benchmark)
    (line : Option Connection) (names : List String) (c : Course σ) :
    Except Halt Unit × Course σ :=
  let s := { Setting.around b with isConnected := line.isSome }
  perform services (names.flatMap (steps services s)) ⟨line, none⟩ c

def runWith {σ : Type} (services : Services σ) (b : Option Benchmark) (attributes : Attributes)
    (line : Option Connection) (name : String) (c : Course σ) : Except Halt Unit × Course σ :=
  perform services (steps services ⟨b, attributes, line.isSome⟩ name) ⟨line, none⟩ c

def bracket {σ : Type} (services : Services σ) (occasion : Occasion) (b : Option Benchmark)
    (names : List String) (c : Course σ) : Except Halt Unit × Course σ :=
  runAll services b none names (c.note (.hooks occasion names))

end SqlBench.Hook
