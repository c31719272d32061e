import SqlBench.Text.Blank
import SqlBench.Text.Cut

set_option autoImplicit false

namespace SqlBench.CommandLine

def parseVariable (text : String) : Except String (String × String) :=
  let refused := Except.error ("expected key=value, got '" ++ text ++ "'")
  match Text.cutAt '=' text.toList with
  | none => refused
  | some (key, value) =>
    let key := Text.trim key
    if key.isEmpty then refused else .ok (String.ofList key, String.ofList value)

end SqlBench.CommandLine
