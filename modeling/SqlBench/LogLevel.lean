import SqlBench.Text.Blank

set_option autoImplicit false

namespace SqlBench

inductive LogLevel where
  | debug | info | warn | error
  deriving DecidableEq, Repr

namespace LogLevel

def name : LogLevel → String
  | .debug => "debug"
  | .info => "info"
  | .warn => "warn"
  | .error => "error"

def parse (value : String) : Except String (Option LogLevel) :=
  let name := String.ofList ((Text.trim value.toList).map Char.toLower)
  match name with
  | "" => .ok none
  | "off" => .ok none
  | "debug" => .ok (some .debug)
  | "info" => .ok (some .info)
  | "warn" => .ok (some .warn)
  | "error" => .ok (some .error)
  | other => .error other

end LogLevel

end SqlBench
