import SqlBench.Json.Reader
import SqlBench.Retry
import SqlBench.Web.Status
import SqlBench.Web.Url

set_option autoImplicit false

namespace SqlBench.Web

inductive Demand where
  | fetch
  | deliver (document : Json)

structure Request where
  url : Url
  demand : Demand

inductive Reply where
  | answered (status : Nat) (body : String)
  | unreachable
  | brokenOff
  deriving DecidableEq

abbrev Wire (σ : Type) := Request → σ → Reply × σ

namespace Wire

def cut {σ : Type} : Wire σ := fun _ s => (.unreachable, s)

-- A service that gives prepared replies, the last of them for ever, and keeps what it is asked.
-- Without replies it grants everything.
structure Desk where
  replies : List Reply
  received : List Request

def Desk.due (d : Desk) : Reply :=
  (d.replies.head?).getD (.answered 200 "")

def toDesk : Wire Desk := fun request d =>
  let left :=
    match d.replies with
    | _ :: second :: rest => second :: rest
    | few => few
  (d.due, ⟨left, request :: d.received⟩)

end Wire

-- What a reply to a request to an address means. Messages about an answer show the address as it
-- was given.
def Reply.outcome (url : Url) (address : String) : Reply → Except Failure String
  | .answered status body =>
    if isGranted status then .ok body
    else
      let reason := ExternalReason.refusedStatus status (statusPhrase status) address body
      if isServerFault status then .error (.transient reason) else .error (.permanent reason)
  | .unreachable => .error (.transient (.unsent url.text))
  | .brokenOff => .error (.permanent (.unsent url.text))

structure Client (σ : Type) where
  policy : RetryPolicy
  wire : Wire σ

namespace Client

variable {σ : Type}

def sendOnce (c : Client σ) (address : String) (demand : Demand) (s : σ) :
    Except Failure String × σ :=
  match Url.parse? address with
  | none => (.error (.permanent .badAddress), s)
  | some url =>
    if url.isServed then
      let (reply, s) := c.wire ⟨url, demand⟩ s
      (reply.outcome url address, s)
    else (.error (.permanent (.badScheme url.text)), s)

def send (c : Client σ) (address : String) (demand : Demand) (s : σ) : Retry.Call σ String :=
  Retry.call c.policy (c.sendOnce address demand) s

def fetch (c : Client σ) (address : String) (s : σ) : Except Failure Json × σ :=
  let sent := c.send address .fetch s
  let document := do
    let body ← sent.outcome
    match Json.parse? body with
    | some document => pure document
    | none => throw (.json "")
  (document, sent.state)

def deliver (c : Client σ) (address : String) (document : Json) (s : σ) :
    Except Failure Unit × σ :=
  let sent := c.send address (.deliver document) s
  (sent.outcome.map fun _ => (), sent.state)

end Client

end SqlBench.Web
