import SqlBench.CommandLine.Session
import Std.Time.DateTime.Timestamp

set_option autoImplicit false

namespace SqlBench.Main

open SqlBench.CommandLine

def readTree (depth : Nat) (entries : Array IO.FS.DirEntry) : IO FileTree := do
  match depth with
  | 0 => pure (.directory [])
  | depth + 1 =>
    let mut found : List (String × FileTree) := []
    for entry in entries do
      try
        if ← entry.path.isDir then
          let inside ← entry.path.readDir
          found := (entry.fileName, ← readTree depth inside) :: found
        else
          let content ← IO.FS.readBinFile entry.path
          found := (entry.fileName, .file content.toList) :: found
      catch _ => pure ()
    pure (.directory found.reverse)

def pieces (octets : List UInt8) : List (List UInt8) :=
  octets.foldr
    (fun b all =>
      match all with
      | piece :: rest => if b = 0 then [] :: piece :: rest else (b :: piece) :: rest
      | [] => [])
    [[]]

def setting? (octets : List UInt8) : Option (String × Template.Setting) := do
  let isName : UInt8 → Bool := fun b => b ≠ 61
  let name ← Text.decode? (octets.takeWhile isName)
  let value := (octets.dropWhile isName).drop 1
  if name.isEmpty then none
  else
    match Text.decode? value with
    | some text => pure (name, .text text)
    | none => pure (name, .octets value)

def readEnvironment : IO Template.Environment := do
  try
    let shown ← IO.FS.readBinFile "/proc/self/environ"
    pure (Dict.ofList ((pieces shown.toList).filterMap setting?))
  catch _ => pure Dict.empty

def readDate : IO Timestamp := do
  let now ← Std.Time.Timestamp.now
  pure ⟨now.toSecondsSinceUnixEpoch.val, 0⟩

def usage (fault : UsageFault) : String :=
  let commands := "qbench run|list [-c FILE] [-v KEY=VALUE]... "
  let forRun := "(run: [-b NAME]... [-s ID,...] [-t SECONDS])"
  match fault with
  | .help => "Usage: " ++ commands ++ forRun
  | .version => "qbench 0.1.0"
  | .helpForMissing => "Usage: " ++ commands ++ forRun
  | .unknownCommand => "error: unrecognized subcommand"
  | .unknownArgument => "error: unexpected argument found"
  | .missingValue => "error: a value is required"
  | .valueTooMany => "error: unexpected value"
  | .conflict => "error: the argument cannot be used multiple times"
  | .badValue => "error: invalid value"

def exitCode : Outcome → UInt32
  | .failed (.breakdown ..) => 101
  | outcome => if outcome.isSuccess then 0 else 1

def finish (outcome : Outcome) : IO UInt32 := do
  match outcome with
  | .misused fault =>
    if outcome.isSuccess then
      IO.println (usage fault)
      pure 0
    else
      IO.eprintln (usage fault)
      pure 2
  | outcome =>
    IO.print outcome.output
    if !outcome.complaint.isEmpty then IO.eprintln outcome.complaint
    pure (exitCode outcome)

end SqlBench.Main

def main (arguments : List String) : IO UInt32 := do
  let here ← IO.currentDir
  let files ← SqlBench.Main.readTree 16 (← here.readDir)
  let surroundings : SqlBench.CommandLine.Surroundings Unit :=
    { files := files
      environment := ← SqlBench.Main.readEnvironment
      date := ← SqlBench.Main.readDate
      tick := 0
      wire := SqlBench.Web.Wire.cut
      remote := ()
      clock := (SqlBench.Instant.zero.after? (← IO.monoNanosNow)).getD .zero }
  SqlBench.Main.finish (surroundings.answer arguments).1
