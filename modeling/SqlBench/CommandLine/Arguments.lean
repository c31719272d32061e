import SqlBench.CommandLine.Variable
import SqlBench.Width

set_option autoImplicit false

namespace SqlBench.CommandLine

inductive UsageFault where
  | help
  | helpForMissing
  | version
  | unknownCommand
  | unknownArgument
  | missingValue
  | valueTooMany
  | conflict
  | badValue
  deriving DecidableEq, Repr

structure Origin where
  path : String
  parameters : List (String × String)
  deriving DecidableEq, Repr

def Origin.standard : Origin := ⟨"qbench.yaml", []⟩

structure Order where
  benchmarks : List String
  sequenceIds : List String
  timeLimitSecs : Option Nat
  deriving DecidableEq, Repr

inductive Command where
  | list (origin : Origin)
  | run (origin : Origin) (order : Order)
  deriving DecidableEq, Repr

inductive Choice where
  | config
  | variable
  | benchmark
  | sequenceId
  | timeLimit
  | help
  deriving DecidableEq, Repr

namespace Choice

def common : List (Char × String × Choice) :=
  [('c', "config", .config), ('v', "var", .variable), ('h', "help", .help)]

def ofRun : List (Char × String × Choice) :=
  common ++ [('b', "benchmark", .benchmark), ('s', "sequence-id", .sequenceId),
    ('t', "time-limit", .timeLimit)]

end Choice

structure Draft where
  path : Option String
  parameters : List (String × String)
  benchmarks : List String
  sequenceIds : List String
  timeLimitSecs : Option Nat

namespace Draft

def empty : Draft := ⟨none, [], [], [], none⟩

def seconds? (text : String) : Option Nat :=
  let digits :=
    match text.toList with
    | '+' :: rest => rest
    | all => all
  if digits.isEmpty || !digits.all Char.isDigit then none
  else
    let n := digits.foldl (fun n c => 10 * n + (c.toNat - 48)) 0
    if 0 < n ∧ n < Width.size 64 then some n else none

def take (d : Draft) (choice : Choice) (value : String) : Except UsageFault Draft :=
  match choice with
  | .config =>
    if d.path.isSome then .error .conflict
    else if value.isEmpty then .error .missingValue
    else .ok { d with path := some value }
  | .variable =>
    match parseVariable value with
    | .ok v => .ok { d with parameters := d.parameters ++ [v] }
    | .error _ => .error .badValue
  | .benchmark => .ok { d with benchmarks := d.benchmarks ++ [value] }
  | .sequenceId => .ok { d with sequenceIds := d.sequenceIds ++ Text.split ',' value }
  | .timeLimit =>
    if d.timeLimitSecs.isSome then .error .conflict
    else
      match seconds? value with
      | some n => .ok { d with timeLimitSecs := some n }
      | none => .error .badValue
  | .help => .error .help

def origin (d : Draft) : Origin :=
  ⟨d.path.getD Origin.standard.path, d.parameters⟩

def order (d : Draft) : Order :=
  ⟨d.benchmarks, d.sequenceIds, d.timeLimitSecs⟩

end Draft

inductive Shape where
  | endOfOptions
  | word (name : String) (value : Option String)
  | letter (c : Char) (value : Option String)
  | plain (text : String)
  deriving DecidableEq, Repr

def Shape.of (argument : String) : Shape :=
  match argument.toList with
  | ['-', '-'] => .endOfOptions
  | '-' :: '-' :: rest =>
    match Text.cutAt '=' rest with
    | some (name, value) => .word (String.ofList name) (some (String.ofList value))
    | none => .word (String.ofList rest) none
  | ['-'] => .plain argument
  | '-' :: c :: rest =>
    let value :=
      match rest with
      | [] => none
      | '=' :: value => some (String.ofList value)
      | value => some (String.ofList value)
    .letter c value
  | _ => .plain argument

abbrev Pending := Option (Choice × Option String)

def settle (d : Draft) : Pending → Except UsageFault Draft
  | none => .ok d
  | some (_, none) => .error .missingValue
  | some (choice, some value) => d.take choice value

def takeChoice (d : Draft) (pending : Pending) (choice : Choice) (isLetter : Bool)
    (value : Option String) : Except UsageFault (Draft × Pending) :=
  match choice, value with
  | .help, value => do
    if value.isSome && !isLetter then throw .valueTooMany
    let _ ← settle d pending
    throw .help
  | choice, some value => do
    let d ← settle d pending
    let d ← d.take choice value
    pure (d, none)
  | choice, none => do
    let d ← settle d pending
    pure (d, some (choice, none))

def readOptions (options : List (Char × String × Choice)) :
    Draft → Pending → List String → Except UsageFault Draft
  | d, pending, [] => settle d pending
  | d, pending, argument :: rest =>
    match Shape.of argument with
    | .endOfOptions => if rest.isEmpty then settle d pending else .error .unknownArgument
    | .word name value =>
      match options.find? fun o => o.2.1 == name with
      | none => .error .unknownArgument
      | some o =>
        match takeChoice d pending o.2.2 false value with
        | .ok (d, pending) => readOptions options d pending rest
        | .error fault => .error fault
    | .letter c value =>
      match options.find? fun o => o.1 == c with
      | none => .error .unknownArgument
      | some o =>
        match takeChoice d pending o.2.2 true value with
        | .ok (d, pending) => readOptions options d pending rest
        | .error fault => .error fault
    | .plain text =>
      match pending with
      | some (choice, none) => readOptions options d (some (choice, some text)) rest
      | _ => .error .unknownArgument

def commandNames : List String := ["run", "list", "help"]

def readHelp : List String → UsageFault
  | [] => .help
  | [name] => if commandNames.contains name then .help else .unknownCommand
  | _ => .unknownCommand

def readFront : List String → Except UsageFault Command
  | [] => .error .helpForMissing
  | argument :: rest =>
    match Shape.of argument with
    | .endOfOptions =>
      match rest with
      | [] => .error .helpForMissing
      | next :: _ =>
        .error (if commandNames.contains next then .unknownArgument else .unknownCommand)
    | .word name value =>
      let fault :=
        match name, value with
        | "help", none => UsageFault.help
        | "version", none => .version
        | "help", some _ => .valueTooMany
        | "version", some _ => .valueTooMany
        | _, _ => .unknownArgument
      .error fault
    | .letter c _ =>
      .error (if c = 'h' then .help else if c = 'V' then .version else .unknownArgument)
    | .plain _ => .error .unknownCommand

def Command.parse : List String → Except UsageFault Command
  | "list" :: rest =>
    (readOptions Choice.common .empty none rest).map fun d => .list d.origin
  | "run" :: rest =>
    (readOptions Choice.ofRun .empty none rest).map fun d => .run d.origin d.order
  | "help" :: rest => .error (readHelp rest)
  | arguments => readFront arguments

end SqlBench.CommandLine
