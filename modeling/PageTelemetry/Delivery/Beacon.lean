import PageTelemetry.Delivery

/-! A beacon at work: callers put requests into a queue, and a worker posts them, each in an attempt
of its own. A caller that closes the beacon shuts the queue and then asks for the handle of the worker.
The handle lies under a lock; whoever takes it waits for the worker, and holds the lock meanwhile. -/
namespace PageTelemetry

/-- What the worker of a beacon does. -/
inductive Worker
  /-- Takes requests from the queue. -/
  | receiving
  /-- Waits for the attempts that are under way. -/
  | draining
  | stopped
  deriving DecidableEq, Repr, Inhabited

/-- Where the handle of the worker is. -/
inductive Handle
  /-- In its place, which is not locked. -/
  | ready
  /-- Taken by a caller who waits for the worker and holds the lock. -/
  | joining
  /-- Used up; the lock is free again. -/
  | spent
  deriving DecidableEq, Repr, Inhabited

structure Beacon where
  isOpen : Bool := true
  queued : List Request := []
  /-- Requests posted in attempts that are under way. -/
  inFlight : List Request := []
  /-- Requests whose attempts have ended; the worker has not seen it yet. -/
  ended : List Request := []
  /-- Requests whose attempts have ended as far as the worker knows. -/
  reaped : List Request := []
  worker : Worker := .receiving
  handle : Handle := .ready
  /-- The callers that have shut the queue and do not have the lock yet. -/
  closing : Nat := 0
  /-- The callers whose close has returned. -/
  closed : Nat := 0
  deriving DecidableEq, Repr, Inhabited

namespace Beacon

inductive Event
  /-- A caller hands in a request. -/
  | send (r : Request)
  /-- A caller begins to close: the queue is shut. -/
  | close
  /-- A caller that closes gets the lock. It takes the handle, or returns if that is used up. -/
  | join
  /-- The caller that has the handle finds the worker stopped, and returns. -/
  | joined
  /-- The worker takes the first request of the queue and posts it. -/
  | receive
  /-- An attempt under way ends, well or badly. -/
  | finish (place : Nat)
  /-- The worker forgets an attempt that has ended. -/
  | reap (place : Nat)
  /-- The worker finds the queue empty and shut. -/
  | drain
  /-- The worker finds no attempt left. -/
  | stop
  deriving DecidableEq, Repr

/-- The beacon after an event, if the event can happen. A request for a beacon that is shut is dropped. -/
def step? (b : Beacon) : Event → Option Beacon
  | .send r => some (if b.isOpen then { b with queued := b.queued ++ [r] } else b)
  | .close => some { b with isOpen := false, closing := b.closing + 1 }
  | .join =>
    match b.closing, b.handle with
    | n + 1, .ready => some { b with closing := n, handle := .joining }
    | n + 1, .spent => some { b with closing := n, closed := b.closed + 1 }
    | _, _ => none
  | .joined =>
    if b.handle = .joining ∧ b.worker = .stopped then
      some { b with handle := .spent, closed := b.closed + 1 }
    else none
  | .receive =>
    match b.worker, b.queued with
    | .receiving, r::rest => some { b with queued := rest, inFlight := b.inFlight ++ [r] }
    | _, _ => none
  | .finish place =>
    match b.inFlight[place]? with
    | some r => some { b with inFlight := b.inFlight.eraseIdx place, ended := b.ended ++ [r] }
    | none => none
  | .reap place =>
    match b.ended[place]? with
    | some r => some { b with ended := b.ended.eraseIdx place, reaped := b.reaped ++ [r] }
    | none => none
  | .drain =>
    if b.worker = .receiving ∧ b.queued = [] ∧ b.isOpen = false then some { b with worker := .draining }
    else none
  | .stop =>
    if b.worker = .draining ∧ b.inFlight = [] ∧ b.ended = [] then some { b with worker := .stopped }
    else none

/-- The beacon after events that can happen one after the other. -/
def run? (b : Beacon) (events : List Event) : Option Beacon := events.foldlM step? b

/-- The requests that have been posted. -/
def posted (b : Beacon) : List Request := b.reaped ++ b.ended ++ b.inFlight

/-- The requests that were handed in before the queue was shut. -/
def accepted : List Event → List Request
  | [] => []
  | .close::_ => []
  | .send r::rest => r::accepted rest
  | _::rest => accepted rest

end Beacon

end PageTelemetry
