import Mathlib.Logic.Function.Iterate
import SqlBench.Web.Client

set_option autoImplicit false

namespace SqlBench

variable {σ α : Type}

namespace Retry

def Transient (outcome : Except Failure α) : Prop :=
  ∃ reason, outcome = .error (.transient reason)

theorem is_transient_iff {outcome : Except Failure α} :
    isTransient outcome = true ↔ Transient outcome := by
  cases outcome with
  | ok result => simp [isTransient, Transient]
  | error cause => cases cause <;> simp [isTransient, Failure.isTransient, Transient]

def behind (operation : σ → Except Failure α × σ) (s : σ) (attempts : Nat) : σ :=
  (fun s => (operation s).2)^[attempts] s

def outcomeAt (operation : σ → Except Failure α × σ) (s : σ) (earlier : Nat) : Except Failure α :=
  (operation (behind operation s earlier)).1

def attemptsAgain (pause : Span) (operation : σ → Except Failure α × σ) (s : σ) (again : Nat) :
    List (Act α) :=
  (List.range again).flatMap (fun i => [.attempted (outcomeAt operation s i), .waited pause]) ++
    [.attempted (outcomeAt operation s again)]

-- How many attempts there are if those of these indices would be transient.
structure Bounded (policy : RetryPolicy) (transient : Nat → Prop) (attempts : Nat) : Prop where
  settled : ∀ first, ¬ transient first → (∀ i < first, transient i) →
    attempts = min (max 1 policy.maxAttempts) (1 + first)
  exhausted : (∀ i, transient i) → attempts = max 1 policy.maxAttempts

theorem attempts_onward (pause : Span) (operation : σ → Except Failure α × σ) (s : σ) (again : Nat) :
    attemptsAgain pause operation s (again + 1) =
      .attempted (operation s).1 :: .waited pause ::
        attemptsAgain pause operation (operation s).2 again := by
  rw [attemptsAgain, List.range_succ_eq_map, List.flatMap_cons, List.flatMap_map]
  rfl

-- By induction on the attempts that are left: each starts from what the one before has left behind.
theorem attempt_again (pause : Span) (operation : σ → Except Failure α × σ) (more : Nat) (s : σ) :
    ∃ again ≤ more,
      attempt pause operation more s = ⟨attemptsAgain pause operation s again,
        outcomeAt operation s again, behind operation s (again + 1)⟩ ∧
      (∀ i < again, Transient (outcomeAt operation s i)) ∧
      (again < more → ¬ Transient (outcomeAt operation s again)) := by
  induction more generalizing s with
  | zero =>
      exact ⟨0, Nat.le_refl 0, rfl, fun i less => absurd less (Nat.not_lt_zero i),
        fun less => absurd less (Nat.lt_irrefl 0)⟩
  | succ more ih =>
      cases transient : isTransient (operation s).1 with
      | false =>
          refine ⟨0, Nat.zero_le _, ?_, fun i less => absurd less (Nat.not_lt_zero i), fun _ holds => ?_⟩
          · simp only [attempt, transient, Bool.false_eq_true, if_false]
            rfl
          · rw [← is_transient_iff] at holds
            exact Bool.false_ne_true (transient.symm.trans holds)
      | true =>
          obtain ⟨again, fits, same, earlier, last⟩ := ih (operation s).2
          refine ⟨again + 1, Nat.succ_le_succ fits, ?_, fun i less => ?_, fun less => ?_⟩
          · simp only [attempt, transient, if_true, same, attempts_onward]
            rfl
          · cases i with
            | zero => exact is_transient_iff.mp transient
            | succ i => exact earlier i (Nat.lt_of_succ_lt_succ less)
          · exact last (Nat.lt_of_succ_lt_succ less)

theorem bounded_again {policy : RetryPolicy} {transient : Nat → Prop} {again : Nat}
    (fits : again ≤ policy.maxAttempts - 1) (earlier : ∀ i < again, transient i)
    (last : again < policy.maxAttempts - 1 → ¬ transient again) :
    Bounded policy transient (again + 1) where
  settled first settles before := by
    have reached : again ≤ first := Nat.le_of_not_lt fun less => settles (earlier first less)
    rcases Nat.lt_or_eq_of_le reached with less | rfl
    · have whole : again = policy.maxAttempts - 1 :=
        Nat.le_antisymm fits (Nat.le_of_not_lt fun remains => last remains (before again less))
      omega
    · omega
  exhausted always := by
    have whole : again = policy.maxAttempts - 1 :=
      Nat.le_antisymm fits (Nat.le_of_not_lt fun remains => last remains (always again))
    omega

theorem attempts_counted (pause : Span) (operation : σ → Except Failure α × σ) (s : σ) (again : Nat) :
    (attemptsAgain pause operation s again).countP Act.isAttempt = again + 1 ∧
      (attemptsAgain pause operation s again).foldr (fun act rest => act.pause + rest) 0 =
        again * pause := by
  induction again generalizing s with
  | zero => exact ⟨rfl, (Nat.zero_mul pause).symm⟩
  | succ again ih =>
      obtain ⟨count, pauses⟩ := ih (operation s).2
      rw [attempts_onward]
      refine ⟨?_, ?_⟩
      · rw [List.countP_cons_of_pos rfl, List.countP_cons_of_neg Bool.false_ne_true, count]
      · rw [List.foldr_cons, List.foldr_cons, pauses, Act.pause, Act.pause, Nat.zero_add,
          Nat.succ_mul, Nat.add_comm]

structure Retried (policy : RetryPolicy) (operation : σ → Except Failure α × σ) (s : σ) (again : Nat) :
    Prop where
  call : call policy operation s = ⟨attemptsAgain (millis policy.backoffMs) operation s again,
    outcomeAt operation s again, behind operation s (again + 1)⟩
  attempts : (Retry.call policy operation s).attempts = again + 1
  waited : (Retry.call policy operation s).waited = again * millis policy.backoffMs
  bounded : Bounded policy (fun i => Transient (outcomeAt operation s i)) (again + 1)

theorem call_retried (policy : RetryPolicy) (operation : σ → Except Failure α × σ) (s : σ) :
    ∃ again, Retried policy operation s again := by
  obtain ⟨again, fits, same, earlier, last⟩ :=
    attempt_again (millis policy.backoffMs) operation (policy.maxAttempts - 1) s
  have called : call policy operation s = _ := same
  obtain ⟨count, pauses⟩ := attempts_counted (millis policy.backoffMs) operation s again
  refine ⟨again, called, ?_, ?_, bounded_again fits earlier last⟩
  · rw [called]
    exact count
  · rw [called]
    exact pauses

end Retry

namespace Web

def Reply.Transient : Reply → Prop
  | .answered status _ => 500 ≤ status ∧ status < 600
  | .unreachable => True
  | .brokenOff => False

theorem transient_outcome (url : Url) (address : String) (reply : Reply) :
    Retry.Transient (reply.outcome url address) ↔ reply.Transient := by
  cases reply with
  | answered status body =>
      simp only [Reply.outcome, Reply.Transient, Retry.Transient]
      split
      · rename_i granted
        simp only [isGranted, Bool.and_eq_true, decide_eq_true_eq] at granted
        simp only [reduceCtorEq, exists_false, false_iff]
        omega
      · split
        · rename_i fault
          simpa [isServerFault] using fault
        · rename_i fault
          simpa [isServerFault] using fault
  | unreachable => simp [Reply.outcome, Reply.Transient, Retry.Transient]
  | brokenOff => simp [Reply.outcome, Reply.Transient, Retry.Transient]

namespace Wire

def behind (wire : Wire σ) (request : Request) (s : σ) (sent : Nat) : σ :=
  (fun s => (wire request s).2)^[sent] s

def replyAt (wire : Wire σ) (request : Request) (s : σ) (earlier : Nat) : Reply :=
  (wire request (wire.behind request s earlier)).1

-- A service that gives its replies in their order, whatever it is asked, and keeps what it is asked.
def replying (replies : Nat → Reply) : Wire (List Request) :=
  fun request received => (replies received.length, request :: received)

theorem replying_behind (replies : Nat → Reply) (request : Request) (sent : Nat) :
    (replying replies).behind request [] sent = List.replicate sent request := by
  induction sent with
  | zero => rfl
  | succ sent ih =>
      rw [behind, Function.iterate_succ_apply', ← behind, ih]
      rfl

theorem replying_at (replies : Nat → Reply) (request : Request) (earlier : Nat) :
    (replying replies).replyAt request [] earlier = replies earlier := by
  rw [replyAt, replying_behind]
  exact congrArg replies List.length_replicate

end Wire

namespace Client

def leaves (c : Client σ) (address : String) (s : σ) : Demand → σ
  | .fetch => (c.fetch address s).2
  | .deliver document => (c.deliver address document s).2

theorem leaves_sent (c : Client σ) (address : String) (demand : Demand) (s : σ) :
    c.leaves address s demand = (c.send address demand s).state := by
  cases demand <;> rfl

theorem send_once (c : Client σ) {address : String} {url : Url}
    (parsed : Url.parse? address = some url) (served : url.isServed = true) (demand : Demand) :
    c.sendOnce address demand =
      fun s => ((c.wire ⟨url, demand⟩ s).1.outcome url address, (c.wire ⟨url, demand⟩ s).2) := by
  funext s
  simp only [sendOnce, parsed, served, if_true]

structure Sent (c : Client σ) (address : String) (request : Request) (s : σ) (again : Nat) :
    Prop where
  leaves : c.leaves address s request.demand = c.wire.behind request s (again + 1)
  outcome : (c.send address request.demand s).outcome =
    (c.wire.replyAt request s again).outcome request.url address
  attempts : (c.send address request.demand s).attempts = again + 1
  waited : (c.send address request.demand s).waited = again * millis c.policy.backoffMs
  bounded : Retry.Bounded c.policy (fun i => (c.wire.replyAt request s i).Transient) (again + 1)

theorem request_sent (c : Client σ) {address : String} {request : Request}
    (parsed : Url.parse? address = some request.url) (served : request.url.isServed = true) (s : σ) :
    ∃ again, c.Sent address request s again := by
  obtain ⟨again, sent⟩ := Retry.call_retried c.policy (c.sendOnce address request.demand) s
  have once := c.send_once parsed served request.demand
  have behind : ∀ n, Retry.behind (c.sendOnce address request.demand) s n =
      c.wire.behind request s n := by
    intro n
    rw [Retry.behind, once]
    rfl
  have outcome : ∀ i, Retry.outcomeAt (c.sendOnce address request.demand) s i =
      (c.wire.replyAt request s i).outcome request.url address := by
    intro i
    rw [Retry.outcomeAt, behind, once]
    rfl
  refine ⟨again, ?_, ?_, sent.attempts, sent.waited, ?_⟩
  · rw [leaves_sent, send, sent.call, behind]
  · rw [send, sent.call, outcome]
  · simpa only [outcome, transient_outcome] using sent.bounded

/-- An operation is attempted up to its first outcome that is not transient, within the policy and at
least once. A request is sent so too, whatever the service makes of it: the replies of a service
give how often it receives the request. -/
theorem attempts_bounded :
    (∀ {σ α : Type} (policy : RetryPolicy) (operation : σ → Except Failure α × σ) (s : σ),
      ∃ again, Retry.Retried policy operation s again) ∧
    ∀ (policy : RetryPolicy) (address : String) (request : Request),
      Url.parse? address = some request.url → request.url.isServed = true →
      (∀ {σ : Type} (wire : Wire σ) (s : σ),
        ∃ again, (Client.mk policy wire).Sent address request s again) ∧
      ∀ replies : Nat → Reply, ∃ times,
        (Client.mk policy (Wire.replying replies)).leaves address [] request.demand =
          List.replicate times request ∧
        Retry.Bounded policy (fun i => (replies i).Transient) times := by
  refine ⟨Retry.call_retried, fun policy address request parsed served => ⟨?_, fun replies => ?_⟩⟩
  · intro σ wire s
    exact (Client.mk policy wire).request_sent parsed served s
  · obtain ⟨again, sent⟩ :=
      (Client.mk policy (Wire.replying replies)).request_sent parsed served []
    refine ⟨again + 1, ?_, ?_⟩
    · rw [sent.leaves, Wire.replying_behind]
    · simpa only [Wire.replying_at] using sent.bounded

def orders : Request :=
  ⟨⟨"http".toList, some "desk".toList, none, "/orders".toList⟩, .fetch⟩

def hesitant : Nat → Reply
  | 0 => .answered 503 "busy"
  | 1 => .answered 599 ""
  | _ => .answered 200 "[]"

theorem hesitant_asked_thrice :
    (Client.mk ⟨5, 10⟩ (Wire.replying hesitant)).leaves "http://desk:80/orders" [] .fetch =
      [orders, orders, orders] ∧
    (Client.mk ⟨2, 10⟩ (Wire.replying hesitant)).leaves "http://desk:80/orders" [] .fetch =
      [orders, orders] ∧
    (Client.mk ⟨0, 10⟩ (Wire.replying hesitant)).leaves "http://desk:80/orders" [] .fetch =
      [orders] := by
  have sent : ∀ policy : RetryPolicy, (Client.mk policy (Wire.replying hesitant)).leaves
      "http://desk:80/orders" [] .fetch =
        List.replicate (min (max 1 policy.maxAttempts) (1 + 2)) orders := by
    intro policy
    obtain ⟨times, received, bounded⟩ :=
      (attempts_bounded.2 policy "http://desk:80/orders" orders (by decide +kernel) (by decide)).2
        hesitant
    have transient : ∀ i < 2, (hesitant i).Transient := by
      intro i less
      match i, less with
      | 0, _ => exact ⟨by decide, by decide⟩
      | 1, _ => exact ⟨by decide, by decide⟩
    have settles : ¬ (hesitant 2).Transient := fun fault => absurd fault.1 (by decide)
    exact received.trans (congrArg (List.replicate · orders) (bounded.settled 2 settles transient))
  exact ⟨sent ⟨5, 10⟩, sent ⟨2, 10⟩, sent ⟨0, 10⟩⟩

end Client

end Web

end SqlBench
