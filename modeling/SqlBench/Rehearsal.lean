import SqlBench.Services
import SqlBench.Shell.Run

set_option autoImplicit false

namespace SqlBench.Rehearsal

structure Source where
  connectMs : Nat
  refusal : Option Failure

structure Part where
  ms : Nat
  rows : Nat
  queryId : Option String
  failure : Option Failure
  panic : Option String
  requestsStop : Bool

def Part.unscripted : Part :=
  ⟨1, 1, none, none, none, false⟩

-- How the use of a statement ends: a panic comes before a failure.
def Part.ending (p : Part) : Ending :=
  match p.panic, p.failure with
  | some panic, _ => .crashed panic
  | none, some cause => .failed cause
  | none, none => .rows p.rows p.queryId

structure Script where
  sources : Dict Source
  statements : Dict (List Part)
  others : List Part
  engine : String → Except Failure (List Measurement)

structure World where
  uses : Dict Nat
  asked : List String
  files : Shell.Files

def World.start : World :=
  ⟨Dict.empty, [], Shell.Files.empty⟩

def partAt (parts : List Part) (index : Nat) : Part :=
  match parts[index]? with
  | some p => p
  | none => parts.getLastD .unscripted

def connect (script : Script) (source : String) : Promise :=
  match script.sources.get? source with
  | none => .instant (.failed (.unknownSource source))
  | some s =>
    match s.refusal with
    | some cause => ⟨millis s.connectMs, 0, false, .failed cause⟩
    | none => ⟨millis s.connectMs, 0, false, .done⟩

def send (script : Script) (statement : String) (w : World) : Promise × World :=
  let used := (w.uses.get? statement).getD 0
  let part := partAt ((script.statements.get? statement).getD script.others) used
  (⟨millis part.ms, 0, part.requestsStop, part.ending⟩,
    { w with uses := w.uses.insert statement (used + 1) })

def command (hook text : String) (environment : Attributes) (w : World) : Promise × World :=
  match Shell.run text environment w.files with
  | .error reason => (.instant (.failed (.hookSpawn hook reason)), w)
  | .ok (code, files) =>
    let ending : Ending := if code = 0 then .done else .failed (.hookExit hook code)
    (.instant ending, { w with files := files })

def take (script : Script) : Call → World → Promise × World
  | .connect source, w => (connect script source, w)
  | .send _ statement, w => send script statement w
  | .shell hook text environment, w => command hook text environment w

def askEngine (script : Script) : EngineClient World := fun id w =>
  (.instant (script.engine id), { w with asked := w.asked ++ [id] })

end SqlBench.Rehearsal
