import SqlBench.Failure

set_option autoImplicit false

namespace SqlBench.Statistics

-- Number operations. `emptySum` is where sums start, `isNumber` tells values that take part in
-- comparisons, and `noLeast`, `noGreatest` answer for samples in which no value does.
structure Arithmetic (α : Type) where
  zero : α
  hundred : α
  emptySum : α
  add : α → α → α
  sub : α → α → α
  mul : α → α → α
  div : α → α → α
  root : α → α
  ofCount : Nat → α
  isZero : α → Bool
  less : α → α → Bool
  isNumber : α → Bool
  noLeast : α
  noGreatest : α

-- The arithmetic of doubles. Sums start with the zero that leaves every summand as it is.
def doubles : Arithmetic Float where
  zero := 0.0
  hundred := 100.0
  emptySum := -0.0
  add := (· + ·)
  sub := (· - ·)
  mul := (· * ·)
  div := (· / ·)
  root := Float.sqrt
  ofCount := Float.ofNat
  isZero := (· == 0.0)
  less := fun a b => a < b
  isNumber := fun a => !a.isNaN
  noLeast := 1.0 / 0.0
  noGreatest := -1.0 / 0.0

structure Aggregate (α : Type := Float) where
  unit : MeasureUnit
  min : α
  max : α
  mean : α
  stdDev : α
  stdDevPercent : α
  deriving Inhabited

namespace Arithmetic

variable {α : Type} (A : Arithmetic α)

def sum (samples : List α) : α :=
  samples.foldl A.add A.emptySum

def mean (samples : List α) : α :=
  A.div (A.sum samples) (A.ofCount samples.length)

def variance (samples : List α) : α :=
  let m := A.mean samples
  let square (x : α) : α := A.mul (A.sub x m) (A.sub x m)
  A.div (A.sum (samples.map square)) (A.ofCount samples.length)

def lower (a b : α) : α :=
  if A.less b a then b else a

def higher (a b : α) : α :=
  if A.less a b then b else a

def least (samples : List α) : α :=
  match samples.filter A.isNumber with
  | [] => A.noLeast
  | first :: rest => rest.foldl A.lower first

def greatest (samples : List α) : α :=
  match samples.filter A.isNumber with
  | [] => A.noGreatest
  | first :: rest => rest.foldl A.higher first

def percentOf (deviation mean : α) : α :=
  if A.isZero deviation || A.isZero mean then A.zero
  else A.mul (A.div deviation mean) A.hundred

def computed (unit : MeasureUnit) (samples : List α) : Aggregate α :=
  let mean := A.mean samples
  let stdDev := A.root (A.variance samples)
  ⟨unit, A.least samples, A.greatest samples, mean, stdDev, A.percentOf stdDev mean⟩

-- The statistics of samples. One sample is its own least, greatest and mean value and does not
-- deviate; no sample has no statistics.
def aggregate (unit : MeasureUnit) : List α → Except Failure (Aggregate α)
  | [] => .error (.invalid .noSamples)
  | [only] => .ok ⟨unit, only, only, only, A.zero, A.zero⟩
  | samples => .ok (A.computed unit samples)

end Arithmetic

def aggregate (unit : MeasureUnit) (samples : List Float) : Except Failure Aggregate :=
  doubles.aggregate unit samples

structure Group where
  unit : MeasureUnit
  values : List Float

def addToGroup (groups : Dict Group) (m : Measurement) : Except Failure (Dict Group) :=
  match groups.get? m.name with
  | none => .ok (groups.insert m.name ⟨m.unit, [m.value]⟩)
  | some g =>
    if g.unit = m.unit then .ok (groups.insert m.name ⟨g.unit, g.values ++ [m.value]⟩)
    else .error (.invalid (.mixedUnits m.name g.unit m.unit))

def groupByName (measurements : List Measurement) : Except Failure (Dict Group) :=
  measurements.foldlM addToGroup Dict.empty

def addAggregate (done : Dict Aggregate) (entry : String × Group) :
    Except Failure (Dict Aggregate) :=
  (aggregate entry.2.unit entry.2.values).map fun a => done.insert entry.1 a

def aggregateByName (measurements : List Measurement) : Except Failure (Dict Aggregate) :=
  match groupByName measurements with
  | .error e => .error e
  | .ok groups => groups.toList.foldlM addAggregate Dict.empty

end SqlBench.Statistics
