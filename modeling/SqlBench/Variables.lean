import SqlBench.Benchmark
import SqlBench.Width

set_option autoImplicit false

namespace SqlBench.Variables

structure Wheel where
  key : String
  values : List String
  index : Nat

-- The wheels from the slowest to the fastest, or none once all combinations were shown.
structure Odometer where
  wheels : List Wheel
  exhausted : Bool

-- Turns the fastest wheel by one and each wheel before it when the one behind it comes round. Tells
-- whether all of them came round.
def advance : List Wheel → List Wheel × Bool
  | [] => ([], true)
  | w :: rest =>
    match advance rest with
    | (rest, false) => (w :: rest, false)
    | (rest, true) =>
      if w.index + 1 < w.values.length then (⟨w.key, w.values, w.index + 1⟩ :: rest, false)
      else (⟨w.key, w.values, 0⟩ :: rest, true)

def shown (wheels : List Wheel) : Attributes :=
  Dict.ofList (wheels.map fun w => (w.key, w.values.getD w.index ""))

def Odometer.start (parameters : Dict (List String)) : Except Failure Odometer :=
  match Benchmark.emptyVariable? parameters with
  | some key => .error (.invalid (.variableWithoutValues key))
  | none =>
    .ok ⟨parameters.toList.map fun e => ⟨e.1, e.2, 0⟩, parameters.isEmpty⟩

def Odometer.count (o : Odometer) : Nat :=
  if o.wheels.isEmpty then 0 else (o.wheels.map fun w => w.values.length).foldl (· * ·) 1

def Odometer.wordCount (o : Odometer) : Width.Word :=
  if o.wheels.isEmpty then ⟨0, false⟩
  else (o.wheels.map fun w => w.values.length).foldl (Width.Word.times 64) ⟨1, false⟩

def Odometer.next? (o : Odometer) : Option (Attributes × Odometer) :=
  if o.exhausted then none
  else
    let turned := advance o.wheels
    some (shown o.wheels, ⟨turned.1, turned.2⟩)

def Odometer.take : Nat → Odometer → List Attributes
  | 0, _ => []
  | n + 1, o =>
    match o.next? with
    | none => []
    | some (combination, rest) => combination :: rest.take n

def Odometer.drop : Nat → Odometer → Odometer
  | 0, o => o
  | n + 1, o =>
    match o.next? with
    | none => o
    | some (_, rest) => rest.drop n

def expand (parameters : Dict (List String)) : Except Failure (List Attributes) :=
  (Odometer.start parameters).map fun o => o.take o.count

-- The number of combinations that a plan has: without variables it is the empty one alone.
def combinationCount (parameters : Dict (List String)) : Except Failure Nat :=
  (Odometer.start parameters).map fun o => max o.count 1

end SqlBench.Variables
