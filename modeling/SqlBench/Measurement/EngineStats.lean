import SqlBench.Json.Printer
import SqlBench.Measurement.Quantity

set_option autoImplicit false

namespace SqlBench.EngineStats

def metrics : List (String × MeasureUnit) :=
  [("totalPlanningTime", .milliseconds), ("totalScheduledTime", .milliseconds),
    ("totalCpuTime", .milliseconds), ("totalUserTime", .milliseconds),
    ("totalBlockedTime", .milliseconds), ("processedInputDataSize", .bytes),
    ("outputDataSize", .bytes), ("peakMemoryReservation", .bytes)]

def readValue (name : String) (unit : MeasureUnit) (value : Json) : Except Failure Float :=
  match value with
  | .integer n => .ok (Float.ofInt n)
  | .real x => .ok x
  | .string s => Quantity.parse s unit
  | other => .error (.permanent (.unexpectedStatistic name other.compact))

def readMetric (stats : Json) (metric : String × MeasureUnit) :
    Except Failure (Option Measurement) :=
  match stats.get? metric.1 with
  | none => .ok none
  | some value =>
    (readValue metric.1 metric.2 value).map fun x =>
      some ⟨"engine-" ++ metric.1, metric.2, x⟩

def parse (info : Json) : Except Failure (List Measurement) :=
  match info.get? "queryStats" with
  | some (.object members) =>
    (metrics.mapM (readMetric (.object members))).map fun found => found.filterMap id
  | _ => .error (.permanent .noQueryStats)

end SqlBench.EngineStats
