set_option autoImplicit false

namespace SqlBench

inductive MeasureUnit where
  | milliseconds
  | bytes
  | queriesPerSecond
  | plain
  deriving DecidableEq, Repr, Inhabited

def MeasureUnit.name : MeasureUnit → String
  | .milliseconds => "MILLISECONDS"
  | .bytes => "BYTES"
  | .queriesPerSecond => "QUERY_PER_SECOND"
  | .plain => "NONE"

structure Measurement where
  name : String
  unit : MeasureUnit
  value : Float
  deriving Inhabited

-- Measurements agree when name, unit and value do; a value that is no number agrees with none, and
-- the two zeros agree.
def Measurement.agrees (a b : Measurement) : Bool :=
  a.name == b.name && a.unit == b.unit && a.value == b.value

end SqlBench
