import SqlBench.Benchmark
import SqlBench.Expansion
import SqlBench.Width
import SqlBench.Yaml.Decode

set_option autoImplicit false

namespace SqlBench

inductive VariableValue where
  | unit
  | bool (b : Bool)
  | integer (n : Int)
  | real (x : Float)
  | text (s : String)
  | list (items : List VariableValue)
  | other
  deriving Inhabited

namespace VariableValue

def keyText : VariableValue → String
  | .unit => "with null key"
  | .bool b => "with key `" ++ (if b then "true" else "false") ++ "`"
  | .integer n => "with key " ++ toString n
  | .real x => "with key " ++ Decimal.yaml.write x
  | .text s => "with key " ++ Text.quoted s
  | .list _ => "in YAML map"
  | .other => "in YAML map"

def sameKey : VariableValue → VariableValue → Bool
  | .unit, .unit => true
  | .bool a, .bool b => a == b
  | .integer a, .integer b => a == b
  | .real a, .real b => a == b || (a.isNaN && b.isNaN)
  | .text a, .text b => a == b
  | _, _ => false

def ofScalar (path : String) (n : Yaml.Node) (s : Yaml.Scalar) :
    Except Yaml.Fault VariableValue :=
  match s with
  | .unit => .ok .unit
  | .bool b => .ok (.bool b)
  | .integer k =>
    if Width.fitsSigned 64 k || Width.fitsUnsigned 64 k then .ok (.integer k)
    else Yaml.Decode.misfit path "any YAML value" n
  | .real x => .ok (.real x)
  | .text t => .ok (.text t)

def ownTag? (tag : Option String) : Option String :=
  match tag with
  | some t => if t.startsWith "!" then some t else none
  | none => none

-- Puts the tag over a value: it is no scalar any more. An empty tag is refused.
def tagged (tag : Option String) (v : VariableValue) : Except Yaml.Fault VariableValue :=
  match ownTag? tag with
  | some "!" => .error .malformed
  | some _ => .ok .other
  | none => .ok v

def decodeItems (decode : Yaml.Decoder VariableValue) (path : String) :
    Nat → List Yaml.Node → Except Yaml.Fault (List VariableValue)
  | _, [] => .ok []
  | index, n :: rest => do
    let v ← decode (Yaml.Decode.itemPath path index) n
    let vs ← decodeItems decode path (index + 1) rest
    pure (v :: vs)

def decodeEntries (decode : Yaml.Decoder VariableValue) (path : String) :
    List VariableValue → List (Yaml.Node × Yaml.Node) → Except Yaml.Fault Unit
  | _, [] => .ok ()
  | seen, (k, v) :: rest => do
    let key ← decode path k
    if seen.any fun s => s.sameKey key then
      throw (.misfit path ("duplicate entry " ++ key.keyText))
    else
      let _ ← decode (Yaml.Decode.valuePath path k) v
      decodeEntries decode path (key :: seen) rest

def decode : Nat → Yaml.Decoder VariableValue
  | depth, path, n =>
    match depth, Yaml.Decode.target n with
    | _, .scalar tag written style =>
      let plainTag := if (ownTag? tag).isSome then none else tag
      match Yaml.Scalar.resolve plainTag written style with
      | .ok s => do
        let v ← ofScalar path (.scalar plainTag written style) s
        tagged tag v
      | .error _ => Yaml.Decode.misfit path "" (.scalar plainTag written style)
    | 0, _ => .error .malformed
    | depth + 1, .list tag items => do
      let values ← decodeItems (decode depth) path 0 items
      tagged tag (.list values)
    | depth + 1, .map tag entries => do
      decodeEntries (decode depth) path [] entries
      tagged tag .other
    | _, _ => .error .malformed

def scalar? : VariableValue → Option String
  | .text s => some s
  | .integer n => some (toString n)
  | .real x => some (Decimal.yaml.write x)
  | .bool b => some (if b then "true" else "false")
  | _ => none

def ofCommas (s : String) : List String :=
  let parts := (Text.pieces ',' s.toList).map Text.trim
  (parts.filter fun p => !p.isEmpty).map String.ofList

def values? : VariableValue → Option (List String)
  | .list items => items.mapM scalar?
  | .text s => some (ofCommas s)
  | v => (scalar? v).map fun s => [s]

end VariableValue

structure Descriptor where
  dataSource : Option String
  queryNames : Option (List String)
  runs : Nat
  prewarmRuns : Nat
  concurrency : Nat
  beforeBenchmark : List String
  afterBenchmark : List String
  beforeExecution : List String
  afterExecution : List String
  parameters : Dict VariableValue

namespace Descriptor

def blank : Descriptor :=
  ⟨none, none, 1, 0, 1, [], [], [], [], Dict.empty⟩

open Yaml Yaml.Decode in
def fields : List (Slot Descriptor) :=
  let string := text "a string"
  let strings := Decode.list string
  [field "datasource" string fun d v => { d with dataSource := some v },
    field "query-names" strings fun d v => { d with queryNames := some v },
    field "runs" (count "usize") fun d v => { d with runs := v },
    field "prewarm-runs" (count "usize") fun d v => { d with prewarmRuns := v },
    field "concurrency" (count "usize") fun d v => { d with concurrency := v },
    field "before-benchmark" strings fun d v => { d with beforeBenchmark := v },
    field "after-benchmark" strings fun d v => { d with afterBenchmark := v },
    field "before-execution" strings fun d v => { d with beforeExecution := v },
    field "after-execution" strings fun d v => { d with afterExecution := v },
    field "variables" (dict (VariableValue.decode 126)) fun d v => { d with parameters := v }]

def missing {α : Type} (field : String) : Except Yaml.Fault α :=
  .error (.misfit "" ("missing field `" ++ field ++ "`"))

def decoder : Yaml.Decoder (String × List String × Descriptor) := fun path n => do
  let d ← Yaml.Decode.record "BenchmarkDescriptor" false fields blank path n
  match d.dataSource, d.queryNames with
  | none, _ => missing "datasource"
  | some _, none => missing "query-names"
  | some source, some queries => pure (source, queries, d)

def variableValues (entry : String × VariableValue) : Except Failure (String × List String) :=
  match entry.2.values? with
  | some values => .ok (entry.1, values)
  | none => .error (.invalid (.nestedVariable entry.1))

structure Naming where
  environment : String
  sequenceId : String

def benchmark (naming : Naming) (name source : String) (queries : List String) (d : Descriptor)
    (parameters : List (String × List String)) : Benchmark where
  name := name
  sequenceId := naming.sequenceId
  dataSource := source
  environment := naming.environment
  concurrency := d.concurrency
  runs := d.runs
  prewarmRuns := d.prewarmRuns
  queries := queries
  parameters := Dict.ofList parameters
  beforeBenchmark := d.beforeBenchmark
  afterBenchmark := d.afterBenchmark
  beforeExecution := d.beforeExecution
  afterExecution := d.afterExecution

def parse (naming : Naming) (x : Expansion) (name content : String) :
    Except Failure Benchmark := do
  let expanded ← x.expand content
  let (source, queries, d) ←
    match Yaml.Decode.document decoder expanded with
    | .ok r => pure r
    | .error e => throw e.failure
  let parameters ← d.parameters.toList.mapM variableValues
  let b := benchmark naming name source queries d parameters
  b.validate
  pure b

end Descriptor

end SqlBench
