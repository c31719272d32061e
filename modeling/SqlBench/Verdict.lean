import SqlBench.Result

set_option autoImplicit false

namespace SqlBench

structure Verdict where
  failed : List BenchmarkResult
  total : Nat

namespace Verdict

def ofResults (results : List BenchmarkResult) : Verdict :=
  ⟨results.filter fun r => !r.isSuccessful, results.length⟩

def passes (v : Verdict) : Bool :=
  v.failed.isEmpty

def headline (v : Verdict) : String :=
  s!"{v.failed.length} of {v.total} benchmarks failed"

def causes (v : Verdict) : List (String × Failure) :=
  v.failed.flatMap fun r => r.failureCauses.map fun cause => (r.benchmark.name, cause)

def causeLines (entry : String × Failure) : List String :=
  ("  " ++ entry.1 ++ ": " ++ entry.2.message) ::
    entry.2.sources.map fun source => "    caused by: " ++ source

def describe (v : Verdict) : String :=
  String.intercalate "\n" (v.headline :: v.causes.flatMap causeLines)

end Verdict

end SqlBench
