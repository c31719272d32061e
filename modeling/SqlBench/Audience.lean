import SqlBench.Event
import SqlBench.Clock

set_option autoImplicit false

namespace SqlBench

inductive Reply where
  | accepted
  | failed (cause : Failure)
  | panicked (text : String)

inductive Complaint where
  | failed (cause : Failure)
  | panicked

def Reply.complaint? : Reply → Option Complaint
  | .accepted => none
  | .failed cause => some (.failed cause)
  | .panicked _ => some .panicked

structure Handover where
  number : Nat
  event : Event

structure Listener where
  delay : Handover → Span
  reply : Handover → Reply

structure Delivery where
  event : Event
  begun : Moment
  time : Moment

structure Desk where
  listener : Listener
  inbox : List Event
  inHand : Option Delivery
  heard : List Delivery
  complaints : List Complaint
  isDismissed : Bool

namespace Desk

def start (l : Listener) : Desk :=
  ⟨l, [], none, [], [], false⟩

def handed (d : Desk) : List Delivery :=
  d.heard ++ d.inHand.toList

def receive (event : Event) (d : Desk) : Desk :=
  if d.isDismissed then d else { d with inbox := d.inbox ++ [event] }

def dismiss (d : Desk) : Desk :=
  { d with isDismissed := true }

def isIdle (d : Desk) : Bool :=
  d.inHand.isNone && d.inbox.isEmpty

def due? (now : Moment) (d : Desk) : Option Moment :=
  if d.isDismissed then none
  else
    match d.inHand, d.inbox with
    | some x, _ => some x.time
    | none, _ :: _ => some now
    | none, [] => none

def work (now : Moment) (d : Desk) : Desk :=
  match d.inHand, d.inbox with
  | some x, _ =>
    let reply := d.listener.reply ⟨d.heard.length, x.event⟩
    { d with
      inHand := none
      heard := d.heard ++ [x]
      complaints := d.complaints ++ reply.complaint?.toList }
  | none, event :: rest =>
    let delay := d.listener.delay ⟨d.heard.length, event⟩
    { d with inbox := rest, inHand := some ⟨event, now, now + delay⟩ }
  | none, [] => d

end Desk

structure Audience where
  -- The moment from which on the desks are waited for, and for how long.
  closing : Moment
  patience : Span
  -- The moment from which on nobody can post any more, if there is one.
  farewell : Option Moment

namespace Audience

def deadline (a : Audience) : Moment :=
  a.closing + a.patience

inductive Happening where
  | posted
  | released
  | closed
  | passed
  | dismissed
  | returned
  | worked (place : Nat)

structure State where
  now : Moment
  toCome : List (Moment × Event)
  isHeld : Bool
  isClosing : Bool
  desks : List Desk
  passed : Nat
  -- The moment at which all of them were.
  finished : Option Moment

def inTurn : Moment → List (Moment × Event) → List (Moment × Event)
  | _, [] => []
  | before, (t, event) :: rest => (max before t, event) :: inTurn (max before t) rest

def State.start (listeners : List Listener) (posts : List (Moment × Event)) : State :=
  ⟨0, inTurn 0 posts, true, false, listeners.map .start, 0, none⟩

def news (a : Audience) (s : State) : List (Moment × Happening) :=
  match s.toCome with
  | post :: _ => [(post.1, .posted)]
  | [] => if s.isHeld then a.farewell.toList.map fun t => (t, .released) else []

-- What comes next from who closes the run. A desk with nothing left is only passed once nobody can
-- post to it any more.
def ending (a : Audience) (s : State) : List (Moment × Happening) :=
  if s.isClosing then
    match s.desks[s.passed]? with
    | some d =>
      if !s.isHeld && d.isIdle then [(s.now, .passed)] else [(a.deadline, .dismissed)]
    | none => if s.finished.isNone then [(s.now, .returned)] else []
  else [(a.closing, .closed)]

def State.working (s : State) : List (Moment × Happening) :=
  s.desks.zipIdx.filterMap fun x => (x.1.due? s.now).map fun t => (t, .worked x.2)

def State.occur (s : State) (t : Moment) (h : Happening) : State :=
  let s := { s with now := max s.now t }
  match h with
  | .posted =>
    match s.toCome with
    | post :: rest => { s with toCome := rest, desks := s.desks.map (Desk.receive post.2) }
    | [] => s
  | .released => { s with isHeld := false }
  | .closed => { s with isClosing := true }
  | .passed => { s with passed := s.passed + 1 }
  | .dismissed => { s with desks := s.desks.modify s.passed Desk.dismiss, passed := s.passed + 1 }
  | .returned => { s with finished := some s.now }
  | .worked place => { s with desks := s.desks.modify place (Desk.work s.now) }

def earliest? : List (Moment × Happening) → Option (Moment × Happening)
  | [] => none
  | x :: rest =>
    match earliest? rest with
    | some y => if x.1 ≤ y.1 then some x else some y
    | none => some x

def turn (a : Audience) (s : State) : State :=
  match earliest? (a.news s ++ a.ending s ++ s.working) with
  | some (t, h) => s.occur t h
  | none => s

def turns (a : Audience) : Nat → State → State
  | 0, s => s
  | n + 1, s => turns a n (a.turn s)

-- A bound on the number of turns: every desk turns twice for each event.
def workload (listeners : List Listener) (posts : List (Moment × Event)) : Nat :=
  posts.length * (2 * listeners.length + 1) + listeners.length + 3

def run (a : Audience) (listeners : List Listener) (posts : List (Moment × Event)) : State :=
  a.turns (workload listeners posts) (.start listeners posts)

def ofRun (closing : Moment) (more : Span) : Audience :=
  ⟨closing, more, some closing⟩

def heard (listeners : List Listener) (posts : List (Moment × Event)) (closing : Moment)
    (more : Span) : List (List Delivery) :=
  ((ofRun closing more).run listeners posts).desks.map Desk.heard

-- The moment at which all listeners are done or were dismissed.
def dismissed (listeners : List Listener) (posts : List (Moment × Event)) (closing : Moment)
    (more : Span) : Moment :=
  (((ofRun closing more).run listeners posts).finished).getD closing

end Audience

end SqlBench
