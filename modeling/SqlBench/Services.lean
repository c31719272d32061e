import SqlBench.Collector
import SqlBench.Instant
import SqlBench.QueryFile

set_option autoImplicit false

namespace SqlBench

structure Connection where
  number : Nat
  source : String
  deriving DecidableEq, Repr, Inhabited

inductive Call where
  | connect (source : String)
  | send (connection : Connection) (statement : String)
  | shell (hook command : String) (environment : Attributes)
  deriving DecidableEq

inductive Ending where
  | done
  | rows (count : Nat) (queryId : Option String)
  | failed (cause : Failure)
  -- The execution that waits for the call breaks down.
  | crashed (panic : String)
  deriving DecidableEq

structure Promise where
  -- How long the call is waited for; others go on meanwhile.
  delay : Span
  -- How long the call keeps everything busy once its time has come.
  effort : Span
  -- Whether the end of the call makes the run stop.
  requestsStop : Bool
  ending : Ending
  deriving DecidableEq

def Promise.instant (ending : Ending) : Promise :=
  ⟨0, 0, false, ending⟩

structure Services (σ : Type) where
  take : Call → σ → Promise × σ
  queries : QueryFolder
  hooks : Dict (Option String)
  collector : Collector σ
  clock : Instant := .zero

end SqlBench
