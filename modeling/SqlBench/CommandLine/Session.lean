import SqlBench.Catalog
import SqlBench.CommandLine.Arguments
import SqlBench.CommandLine.Listing
import SqlBench.CommandLine.Table
import SqlBench.Station
import SqlBench.Suite
import SqlBench.Verdict
import SqlBench.Web.Reporter

set_option autoImplicit false

namespace SqlBench.CommandLine

inductive Fault where
  | settings (path : String) (cause : Failure)
  | dataSources (cause : Failure)
  | other (cause : Failure)
  -- A panic, behind the lines that were written before.
  | breakdown (written : List String) (panic : String)

def Fault.message : Fault → String
  | .settings path cause =>
    String.intercalate ": " (("Failed to load config " ++ path) :: cause.message :: cause.sources)
  | .dataSources cause => "Failed to prepare data sources: " ++ cause.message
  | .other cause => String.intercalate ": " (cause.message :: cause.sources)
  | .breakdown _ panic => panic

inductive Outcome where
  | misused (fault : UsageFault)
  | failed (fault : Fault)
  | listed (lines : List String)
  | ran (results : List BenchmarkResult)

namespace Outcome

def withEnds (lines : List String) : String :=
  String.join (lines.map fun line => line ++ "\n")

def output : Outcome → String
  | .misused _ => ""
  | .failed (.breakdown written _) => withEnds written
  | .failed _ => ""
  | .listed lines => withEnds lines
  | .ran results => withEnds (tableLines results)

def complaint : Outcome → String
  | .misused _ => ""
  | .failed (.breakdown _ panic) => panic
  | .failed fault => "Error: " ++ fault.message
  | .listed _ => ""
  | .ran results =>
    let verdict := Verdict.ofResults results
    if verdict.passes then "" else verdict.describe

def isSuccess : Outcome → Bool
  | .misused fault => fault = .help || fault = .version
  | .failed _ => false
  | .listed _ => true
  | .ran results => (Verdict.ofResults results).passes

end Outcome

structure Surroundings (τ : Type) where
  files : FileTree
  environment : Template.Environment
  date : Timestamp
  tick : Span
  wire : Web.Wire τ
  remote : τ
  clock : Instant := .zero
  -- Whether a number past its word is a panic.
  checksWords : Bool := true

def suiteOf {σ : Type} (settings : Settings) (services : Services σ) : Suite σ where
  services := services
  failurePolicy := settings.failurePolicy
  cleanupPolicy := settings.cleanupPolicy
  beforeAll := settings.beforeAll
  afterAll := settings.afterAll
  healthCheck := settings.healthCheck
  timeLimit := settings.timeLimit

-- Behind the suite the clock has to show the moment up to which listeners get time.
def runBenchmarks {σ : Type} (settings : Settings) (catalog : Catalog)
    (names sequenceIds : List String) (setUp : Except Fault (Services σ × Course σ)) :
    Except Fault (List BenchmarkResult × Course σ) :=
  match catalog.loadSequences names sequenceIds with
  | .error cause => .error (.other cause)
  | .ok benchmarks =>
    match setUp with
    | .error fault => .error fault
    | .ok (services, c) =>
      match (suiteOf settings services).run benchmarks c with
      | (.error panic, _) => .error (.breakdown [] panic)
      | (.ok returned, c) =>
        if !services.clock.allows c.now settings.drainTimeout then
          .error (.breakdown [] Instant.overflow)
        else
          match returned with
          | .error cause => .error (.other cause)
          | .ok results => .ok (results, c)

namespace Surroundings

variable {τ : Type}

def expansion (s : Surroundings τ) (origin : Origin) : Expansion :=
  ⟨Dict.ofList origin.parameters, s.environment⟩

def loadSettings (s : Surroundings τ) (origin : Origin) : Except Fault Settings :=
  (Settings.load s.files origin.path (s.expansion origin)).mapError (.settings origin.path)

def catalog (s : Surroundings τ) (origin : Origin) (settings : Settings) : Catalog :=
  ⟨s.files, settings.benchmarkDirs, ⟨settings.environment, s.date.name⟩, s.expansion origin⟩

def client (s : Surroundings τ) (settings : Settings) : Web.Client τ :=
  ⟨settings.retry, s.wire⟩

-- The providers of a run. An engine that cannot be asked takes nothing away.
def collector (s : Surroundings τ) (settings : Settings) : Collector (Station τ) :=
  match settings.queryInfoUrl with
  | none => Collector.standard
  | some url =>
    Collector.standard ++
      [(.optional, Provider.engine (Station.askEngine (s.client settings) url))]

def services (s : Surroundings τ) (settings : Settings) : Services (Station τ) where
  take := Station.take s.tick
  queries := ⟨s.files, settings.sqlDirs, s.environment⟩
  hooks := settings.hooks
  collector := s.collector settings
  clock := s.clock

def shellFiles (s : Surroundings τ) : Shell.Files :=
  Dict.ofList ((s.files.texts []).map fun e => (e.1, e.2.toList))

def setUp (s : Surroundings τ) (settings : Settings) :
    Except Fault (Services (Station τ) × Course (Station τ)) :=
  match DataSources.prepare settings.dataSources with
  | .error cause => .error (.dataSources cause)
  | .ok sources =>
    let start : Course (Station τ) := .start .never ⟨sources, s.shellFiles, s.remote⟩
    .ok (s.services settings, { start with tick := s.tick })

-- Reports the news of a run if there is a service that wants it; what the service says changes
-- nothing.
def report (s : Surroundings τ) (settings : Settings) (c : Course (Station τ)) : τ :=
  match settings.serviceUrl with
  | none => c.world.remote
  | some url =>
    let reporter : Web.Reporter τ := ⟨url, s.client settings⟩
    c.events.foldl (fun remote (time, news) => (reporter.tell time news remote).2) c.world.remote

def list (s : Surroundings τ) (origin : Origin) : Except Fault (List String) := do
  let settings ← s.loadSettings origin
  let (lines, isWhole) ←
    ((s.catalog origin settings).load [] >>= listing s.checksWords).mapError .other
  if isWhole then pure lines else throw (.breakdown lines Width.overflow)

def run (s : Surroundings τ) (origin : Origin) (order : Order) :
    Except Fault (List BenchmarkResult × τ) := do
  let settings ← s.loadSettings origin
  let settings :=
    { settings with timeLimitSecs := order.timeLimitSecs <|> settings.timeLimitSecs }
  let ids := if order.sequenceIds.isEmpty then [s.date.name] else order.sequenceIds
  let (results, c) ←
    runBenchmarks settings (s.catalog origin settings) order.benchmarks ids (s.setUp settings)
  pure (results, s.report settings c)

def follow (s : Surroundings τ) (command : Command) : Outcome × τ :=
  match command with
  | .list origin =>
    match s.list origin with
    | .ok lines => (.listed lines, s.remote)
    | .error fault => (.failed fault, s.remote)
  | .run origin order =>
    match s.run origin order with
    | .ok (results, remote) => (.ran results, remote)
    | .error fault => (.failed fault, s.remote)

def answer (s : Surroundings τ) (arguments : List String) : Outcome × τ :=
  match Command.parse arguments with
  | .ok command => s.follow command
  | .error fault => (.misused fault, s.remote)

end Surroundings

end SqlBench.CommandLine
