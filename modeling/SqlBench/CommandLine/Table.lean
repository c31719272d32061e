import SqlBench.Decimal.Written
import SqlBench.Result

set_option autoImplicit false

namespace SqlBench.CommandLine

def padRight (width : Nat) (s : String) : String :=
  s ++ String.ofList (List.replicate (width - s.length) ' ')

def padLeft (width : Nat) (s : String) : String :=
  String.ofList (List.replicate (width - s.length) ' ') ++ s

structure TableLine where
  name : String
  status : String
  runs : String
  failed : String
  mean : String
  spread : String

def TableLine.text (l : TableLine) : String :=
  String.intercalate " "
    [padRight 32 l.name, padRight 8 l.status, padLeft 6 l.runs, padLeft 6 l.failed,
      padLeft 12 l.mean, padLeft 8 l.spread]

def TableLine.header : TableLine :=
  ⟨"BENCHMARK", "STATUS", "RUNS", "FAILED", "MEAN (ms)", "STDDEV%"⟩

def durationColumns (r : BenchmarkResult) : String × String :=
  match r.aggregates.get? "duration" with
  | some a =>
    if a.unit = .milliseconds then (Decimal.fixed 2 a.mean, Decimal.fixed 1 a.stdDevPercent)
    else ("-", "-")
  | none => ("-", "-")

def TableLine.ofResult (r : BenchmarkResult) : TableLine :=
  let (mean, spread) := durationColumns r
  { name := r.benchmark.name ++ "@" ++ r.benchmark.sequenceId
    status := r.status.name
    runs := toString r.executions.length
    failed := toString r.failedExecutions
    mean := mean
    spread := spread }

def throughputLine? (r : BenchmarkResult) : Option String :=
  (r.measurements.find? fun m => m.name == "throughput").map fun m =>
    padRight 32 "" ++ " throughput " ++ Decimal.fixed 2 m.value ++ " " ++ m.unit.name

def resultLines (r : BenchmarkResult) : List String :=
  (TableLine.ofResult r).text :: (throughputLine? r).toList

def tableLines (results : List BenchmarkResult) : List String :=
  TableLine.header.text :: results.flatMap resultLines

end SqlBench.CommandLine
