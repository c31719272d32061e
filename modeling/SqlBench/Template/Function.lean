import SqlBench.Template.Value
import SqlBench.Text.Octets

set_option autoImplicit false

namespace SqlBench.Template

inductive Setting where
  | text (s : String)
  | octets (bytes : List UInt8)
  deriving DecidableEq, Repr

abbrev Environment := Dict Setting

-- What the functions see: the environment, and whether there is a function that reads it with
-- messages of its own.
structure Surroundings where
  environment : Environment
  readsSettings : Bool

def rangeArg (name word : String) (args : Arguments) : Except String (Option Nat) :=
  match args.find? name with
  | none => .ok none
  | some (.integer n) =>
    if 0 ≤ n then .ok (some n.toNat)
    else
      .error ("Function `range` received " ++ name ++ "=" ++ toString n ++ " but `" ++ word ++
        "` can only be a number")
  | some v =>
    .error ("Function `range` received " ++ name ++ "=" ++ v.json ++ " but `" ++ word ++
      "` can only be a number")

def numbersFrom (start stop step : Nat) : List Value :=
  let count := (stop - start + (step - 1)) / step
  (List.range count).map fun i => .integer (Int.ofNat (start + i * step))

def range (args : Arguments) : Except String Value := do
  let start ← rangeArg "start" "start" args
  let step ← rangeArg "step_by" "step" args
  let stop ← rangeArg "end" "end" args
  match stop with
  | none => throw "Function `range` was called without a `end` argument"
  | some stop =>
    let start := start.getD 0
    if stop < start then
      throw "Function `range` was called with a `start` argument greater than the `end` one"
    else pure (.list (numbersFrom start stop (max (step.getD 1) 1)))

def textArg (function name : String) (args : Arguments) : Except String String :=
  match args.find? name with
  | some (.text s) => .ok s
  | some v =>
    .error ("Function `" ++ function ++ "` received " ++ name ++ "=" ++ v.json ++ " but `" ++
      name ++ "` can only be a string")
  | none =>
    .error ("Function `" ++ function ++ "` was called without a `" ++ name ++ "` argument")

def throwMessage (args : Arguments) : Except String Value := do
  throw (← textArg "throw" "message" args)

def getEnv (environment : Environment) (args : Arguments) : Except String Value := do
  let name ← textArg "get_env" "name" args
  match environment.get? name, args.find? "default" with
  | some (.text s), _ => pure (.text s)
  | _, some v => pure v
  | _, none => throw ("Environment variable `" ++ name ++ "` not found")

def readSetting (environment : Environment) (args : Arguments) : Except String Value :=
  match args.find? "name" with
  | some (.text name) =>
    match environment.get? name, args.find? "default" with
    | some (.text s), _ => .ok (.text s)
    | some (.octets bytes), _ =>
      .error ("Failed to read environment variable '" ++ name ++
        "': environment variable was not valid unicode: " ++
        Text.quotedOctets bytes)
    | none, some (.text s) => .ok (.text s)
    | none, _ =>
      .error ("Environment variable '" ++ name ++ "' not set and no default provided")
  | _ => .error "env function requires 'name' parameter"

def function? (around : Surroundings) (name : String) :
    Option (Arguments → Except String Value) :=
  match name with
  | "range" => some range
  | "throw" => some throwMessage
  | "get_env" => some (getEnv around.environment)
  | "env" => if around.readsSettings then some (readSetting around.environment) else none
  | _ => none

end SqlBench.Template
