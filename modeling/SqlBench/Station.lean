import SqlBench.DataSources
import SqlBench.Services
import SqlBench.Shell.Run
import SqlBench.Web.Engine

set_option autoImplicit false

namespace SqlBench

structure Station (τ : Type) where
  sources : DataSources
  files : Shell.Files
  remote : τ

namespace Station

variable {τ : Type}

def readingsPerStatement : Nat := 4

def connect (s : Station τ) (source : String) : Promise :=
  match s.sources.connect source with
  | .ok () => .instant .done
  | .error cause => .instant (.failed cause)

def send (tick : Span) (s : Station τ) (line : Connection) (statement : String) :
    Promise × Station τ :=
  let (answer, sources) := s.sources.send line.source statement
  let ending : Ending :=
    match answer with
    | .ok (rows, name) => .rows rows (some name.text)
    | .error cause => .failed cause
  (⟨0, readingsPerStatement * tick, false, ending⟩, { s with sources := sources })

def command (s : Station τ) (hook text : String) (environment : Attributes) :
    Promise × Station τ :=
  match Shell.run text environment s.files with
  | .error reason => (.instant (.failed (.hookSpawn hook reason)), s)
  | .ok (code, files) =>
    let ending : Ending := if code = 0 then .done else .failed (.hookExit hook code)
    (.instant ending, { s with files := files })

def take (tick : Span) : Call → Station τ → Promise × Station τ
  | .connect source, s => (s.connect source, s)
  | .send line statement, s => s.send tick line statement
  | .shell hook text environment, s => s.command hook text environment

def askEngine (client : Web.Client τ) (engineUrl : String) : EngineClient (Station τ) :=
  fun queryId s =>
    let (answer, remote) := Web.engineAt client engineUrl queryId s.remote
    (answer, { s with remote := remote })

end Station

end SqlBench
