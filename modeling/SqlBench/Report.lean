import SqlBench.Address
import SqlBench.Json.Basic
import SqlBench.Result

set_option autoImplicit false

namespace SqlBench

def Attributes.toJson (a : Attributes) : Json :=
  Json.ofMembers (a.toList.map fun e => (e.1, .string e.2))

def Measurement.toJson (m : Measurement) : Json :=
  Json.ofMembers
    [("name", .string m.name), ("unit", .string m.unit.name), ("value", .real m.value)]

namespace Report

structure BenchmarkStart where
  name : String
  environment : String
  parameters : Attributes
  attributes : Attributes

structure ExecutionStart where
  attributes : Attributes

structure Finish where
  status : Status
  endTime : Timestamp
  measurements : List Measurement
  attributes : Attributes

def benchmarkStart (b : Benchmark) : BenchmarkStart :=
  ⟨b.name, b.environment, b.parameters.map fun values => String.intercalate "," values,
    b.identity⟩

def executionStart (e : Execution) : ExecutionStart :=
  ⟨e.attributes⟩

def benchmarkFinish (r : BenchmarkResult) (endTime : Timestamp) : Finish :=
  let causes := r.failureCauses
  let attributes :=
    if causes.isEmpty then Dict.empty
    else Dict.ofList [("failure", String.intercalate "\n" (causes.map Failure.message))]
  ⟨r.status, endTime, r.measurements, attributes⟩

def executionFinish (r : ExecutionResult) : Finish :=
  let withCause :=
    match r.failure with
    | some cause => Dict.empty.insert "failure" cause.message
    | none => Dict.empty
  let attributes :=
    match r.queryId with
    | some id => withCause.insert "engineQueryId" id
    | none => withCause
  ⟨if r.isSuccessful then .success else .failed, .atMoment r.finish, r.measurements, attributes⟩

def BenchmarkStart.toJson (s : BenchmarkStart) : Json :=
  Json.ofMembers
    [("name", .string s.name), ("environmentName", .string s.environment),
      ("variables", s.parameters.toJson), ("attributes", s.attributes.toJson)]

def ExecutionStart.toJson (s : ExecutionStart) : Json :=
  Json.ofMembers [("attributes", s.attributes.toJson)]

def Finish.toJson (f : Finish) : Json :=
  let members :=
    [("status", .string f.status.name), ("endTime", .string f.endTime.text),
      ("measurements", .array (f.measurements.map Measurement.toJson))]
  Json.ofMembers
    (if f.attributes.isEmpty then members
    else members ++ [("attributes", f.attributes.toJson)])

inductive Topic where
  | benchmarkStarts
  | benchmarkEnds
  | executionStarts (number : Nat)
  | executionEnds (number : Nat)
  deriving DecidableEq, Repr

def Topic.segments : Topic → List String
  | .benchmarkStarts => ["start"]
  | .benchmarkEnds => ["finish"]
  | .executionStarts number => ["execution", toString number, "start"]
  | .executionEnds number => ["execution", toString number, "finish"]

def address (serviceUrl : String) (b : Benchmark) (topic : Topic) : String :=
  Address.join serviceUrl (["v1", "benchmark", b.uniqueName, b.sequenceId] ++ topic.segments)

end Report

end SqlBench
