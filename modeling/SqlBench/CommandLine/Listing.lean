import SqlBench.Plan

set_option autoImplicit false

namespace SqlBench.CommandLine

def lineWith (b : Benchmark) (number : Nat) : String :=
  b.name ++ " datasource=" ++ b.dataSource ++ " queries=" ++ String.intercalate "," b.queries ++
    " executions=" ++ toString number

def listingLine (b : Benchmark) : Except Failure String :=
  (Plan.size b).map (lineWith b)

-- The line that is written. A number that does not fit its word breaks the listing down if words
-- are checked, and is cut to fit if they are not.
def writtenLine (checksWords : Bool) (b : Benchmark) : Except Failure (Option String) :=
  match Plan.wordSize b with
  | .error cause => .error cause
  | .ok number =>
    if !number.isCut then (listingLine b).map some
    else if checksWords then .ok none
    else .ok (some (lineWith b number.value))

def listing (checksWords : Bool) : List Benchmark → Except Failure (List String × Bool)
  | [] => .ok ([], true)
  | b :: rest => do
    match ← writtenLine checksWords b with
    | none => pure ([], false)
    | some line =>
      let (lines, isWhole) ← listing checksWords rest
      pure (line :: lines, isWhole)

end SqlBench.CommandLine
