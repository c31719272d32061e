import SqlBench.Result

set_option autoImplicit false

namespace SqlBench

inductive Event where
  | benchmarkStarted (b : Benchmark)
  | benchmarkFinished (r : BenchmarkResult)
  | executionStarted (e : Execution)
  | executionFinished (r : ExecutionResult)
  deriving Inhabited

end SqlBench
