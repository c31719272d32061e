import SqlBench.Clock
import SqlBench.Failure

set_option autoImplicit false

namespace SqlBench

structure RetryPolicy where
  maxAttempts : Nat
  backoffMs : Nat
  deriving DecidableEq, Repr, Inhabited

def RetryPolicy.standard : RetryPolicy := ⟨3, 1000⟩

namespace Retry

inductive Act (α : Type) where
  | attempted (outcome : Except Failure α)
  | waited (pause : Span)

namespace Act

variable {α : Type}

def isAttempt : Act α → Bool
  | .attempted _ => true
  | .waited _ => false

def pause : Act α → Span
  | .attempted _ => 0
  | .waited pause => pause

end Act

structure Call (σ α : Type) where
  acts : List (Act α)
  outcome : Except Failure α
  state : σ

namespace Call

variable {σ α : Type}

def attempts (c : Call σ α) : Nat :=
  c.acts.countP Act.isAttempt

def waited (c : Call σ α) : Span :=
  c.acts.foldr (fun act rest => act.pause + rest) 0

end Call

def isTransient {α : Type} : Except Failure α → Bool
  | .error e => e.isTransient
  | .ok _ => false

def attempt {σ α : Type} (pause : Span) (operation : σ → Except Failure α × σ) :
    Nat → σ → Call σ α
  | 0, s =>
    let (outcome, s) := operation s
    ⟨[.attempted outcome], outcome, s⟩
  | more + 1, s =>
    let (outcome, s) := operation s
    if isTransient outcome then
      let rest := attempt pause operation more s
      { rest with acts := .attempted outcome :: .waited pause :: rest.acts }
    else ⟨[.attempted outcome], outcome, s⟩

def call {σ α : Type} (policy : RetryPolicy) (operation : σ → Except Failure α × σ) (s : σ) :
    Call σ α :=
  attempt (millis policy.backoffMs) operation (policy.maxAttempts - 1) s

end Retry

end SqlBench
