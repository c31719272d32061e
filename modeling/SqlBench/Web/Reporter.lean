import SqlBench.Event
import SqlBench.Report
import SqlBench.Web.Client

set_option autoImplicit false

namespace SqlBench.Web

structure Reporter (σ : Type) where
  serviceUrl : String
  client : Client σ

namespace Reporter

variable {σ : Type}

def listenerName : String := "result-reporter"

def deliver (r : Reporter σ) (b : Benchmark) (topic : Report.Topic) (document : Json) (s : σ) :
    Except Failure Unit × σ :=
  r.client.deliver (Report.address r.serviceUrl b topic) document s

def finish (r : Reporter σ) (result : BenchmarkResult) (endTime : Timestamp) (s : σ) :
    Except Failure Unit × σ :=
  r.deliver result.benchmark .benchmarkEnds (Report.benchmarkFinish result endTime).toJson s

def tell (r : Reporter σ) (now : Moment) (news : Event) (s : σ) : Except Failure Unit × σ :=
  match news with
  | .benchmarkStarted b => r.deliver b .benchmarkStarts (Report.benchmarkStart b).toJson s
  | .benchmarkFinished result =>
    r.finish result (.atMoment (result.finishedAt.getD now)) s
  | .executionStarted e =>
    r.deliver e.benchmark (.executionStarts e.number) (Report.executionStart e).toJson s
  | .executionFinished result =>
    r.deliver result.execution.benchmark (.executionEnds result.execution.number)
      (Report.executionFinish result).toJson s

end Reporter

end SqlBench.Web
