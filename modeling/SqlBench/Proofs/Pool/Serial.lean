import SqlBench.Proofs.Pool.Life
import SqlBench.Proofs.Pool.Truncation

set_option autoImplicit false

namespace SqlBench.Pool

variable {σ : Type}

def Finishes (p : Pool σ) (executions : List Execution) (c : Course σ) (place : Nat)
    (r : ExecutionResult) : Prop :=
  ∃ e begun, p.Begins executions c place e begun ∧ p.Recorded p.GoesOn e begun r

def BreaksDown (p : Pool σ) (executions : List Execution) (c : Course σ) (place : Nat)
    (r : ExecutionResult) : Prop :=
  ∃ e panic now, p.Comes executions c place e (.error panic) ∧ r = crashedResult e panic now

inductive Halts (p : Pool σ) (executions : List Execution) (c : Course σ) (fates : List (Nat × Fate)) :
    Nat → Nat → ExecutionResult → Prop where
  | last {place : Nat} {r : ExecutionResult} (finishes : p.Finishes executions c place r) :
      Halts p executions c fates (place + 1) place r
  | overtaken {place : Nat} {r : ExecutionResult} (breaks : p.BreaksDown executions c place r) :
      Halts p executions c fates (min (place + 2) executions.length) place r
  | late {k i place : Nat} {first r : ExecutionResult} (before : i < place)
      (told : (i, Fate.finished first) ∈ fates) (failed : first.isSuccessful = false) :
      Halts p executions c fates k place r

structure Tells (p : Pool σ) (executions : List Execution) (c : Course σ) (k : Nat)
    (fates : List (Nat × Fate)) : Prop where
  begun : ∀ f ∈ fates, f.2 ≠ .skipped → f.1 < k
  skipped : ∀ f ∈ fates, f.2 = .skipped → k ≤ f.1
  failed : ∀ place r, (place, Fate.finished r) ∈ fates → r.isSuccessful = false →
    Halts p executions c fates k place r

section InTurn

variable {p : Pool σ} {executions : List Execution} {c : Course σ} {s : State σ} {k place : Nat}
  {e : Execution}

end InTurn

section Serial

variable {p : Pool σ} {executions : List Execution} {c : Course σ} {s : State σ}
  {reports : List ExecutionResult}

end Serial

def reported (s : State Unit) : List (Nat × Bool) :=
  s.results.map fun r => (r.execution.number, r.isSuccessful)

end SqlBench.Pool
