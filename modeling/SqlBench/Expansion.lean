import SqlBench.Failure
import SqlBench.Template.Render

set_option autoImplicit false

namespace SqlBench

structure Expansion where
  parameters : Dict String
  environment : Template.Environment

namespace Expansion

def expand (x : Expansion) (text : String) : Except Failure String :=
  match Template.render ⟨x.environment, true⟩ text x.parameters with
  | .ok expanded => .ok expanded
  | .error causes => .error (.config (.expansion causes x.parameters.keys))

end Expansion

end SqlBench
