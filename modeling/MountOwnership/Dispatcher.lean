import MountOwnership.Controller
import MountOwnership.Watch

/-!
# The dispatcher

The dispatcher takes in the reports of a watch and runs the controller's passes:
for every trigger once, and again after the delay that the controller asks for.
A key waits at most once, at the earliest time asked for; it is not worked on
while a pass of it is under way, nor if its object is gone by then. Of the keys
that are due at one time, reported ones go first, the last report before the
others, and then those that are tried again, in the order in which they failed.
At most a given number of passes is under way at a time, and none starts before
the first list is complete.

Passes take no time unless they wait for a call that never completes. Times are
milliseconds from the start.
-/

namespace MountOwnership

/-- The state of the dispatcher. -/
structure Dispatcher where
  /-- The controller. -/
  controller : Controller
  /-- The store. -/
  store : Store
  /-- The number of passes that may be under way at a time; zero is no bound. -/
  concurrency : Nat
  /-- Whether the log shows trace lines. -/
  tracing : Bool
  /-- What tells creations from updates. -/
  classifier : Classifier := {}
  /-- The objects as the watch has reported them. -/
  objects : Table WorkloadKey ReplicaSet := {}
  /-- The objects of a list that is not complete yet. -/
  incoming : Table WorkloadKey ReplicaSet := {}
  /-- Whether a list has been complete. -/
  ready : Bool := false
  /-- The keys that wait, with the times at which they are due. -/
  due : List (Nat × WorkloadKey) := []
  /-- The passes under way, with the times at which they are given up. -/
  running : List (Nat × WorkloadKey) := []

namespace Dispatcher

/-- Whether a key waits for a time before the given one. -/
def waitsBefore (d : Dispatcher) (time : Nat) (k : WorkloadKey) : Bool :=
  d.due.any fun e => e.2 = k && e.1 < time

/-- What the other keys wait for. -/
def others (d : Dispatcher) (k : WorkloadKey) : List (Nat × WorkloadKey) :=
  d.due.filter fun e => e.2 ≠ k

/-- Put a reported key in front of all that wait, unless it waits for an earlier time. -/
def report (d : Dispatcher) (now : Nat) (k : WorkloadKey) : Dispatcher :=
  if d.waitsBefore now k then d else { d with due := (now, k) :: d.others k }

/-- Put a key that is to be tried again behind all that wait, unless it waits for an earlier
time. -/
def retry (d : Dispatcher) (time : Nat) (k : WorkloadKey) : Dispatcher :=
  if d.waitsBefore time k then d else { d with due := d.others k ++ [(time, k)] }

/-- Keep the reported objects up to date. -/
def keepObjects (d : Dispatcher) : WatchEvent → Except KeyFault Dispatcher
  | .apply rs => rs.key.map fun k => { d with objects := d.objects.insert k rs }
  | .initApply rs => rs.key.map fun k => { d with incoming := d.incoming.insert k rs }
  | .delete rs => rs.key.map fun k => { d with objects := d.objects.erase k }
  | .init => .ok { d with incoming := {} }
  | .initDone => .ok { d with objects := d.incoming, incoming := {}, ready := true }

/-- Take in an item of the watch's stream. -/
def takeIn (d : Dispatcher) (now : Nat) (item : WatchItem) : Except KeyFault Dispatcher := do
  let d ← match item with
    | .ok event => d.keepObjects event
    | .error _ => .ok d
  let (classifier, trigger) ← d.classifier.trigger d.tracing d.controller.context.start item
  let d := { d with classifier := classifier }
  match trigger with
  | some (.ok rs) => rs.key.map fun k => d.report now k
  | _ => .ok d

/-- Take in all batches that have come by now. -/
def takeInBatches (d : Dispatcher) (now : Nat) :
    List Watch.Batch → Except KeyFault (Dispatcher × List Watch.Batch)
  | [] => .ok (d, [])
  | b :: batches =>
    if b.time ≤ now then
      match b.items.foldlM (fun d item => d.takeIn now item) d with
      | .error fault => .error fault
      | .ok d => d.takeInBatches now batches
    else .ok (d, b :: batches)

/-- Take in the result of a pass and let the key wait if it is to be tried again. -/
def conclude (d : Dispatcher) (now : Nat) (k : WorkloadKey)
    (result : Except ControllerError Outcome) : Dispatcher :=
  match d.controller.conclude k result with
  | (c, .ok _) => { d with controller := c }
  | (c, .error e) =>
    match c.onError k e with
    | (c, .awaitChange) => { d with controller := c }
    | (c, .requeue delay) => { d with controller := c }.retry (now + delay.nanos / 1000000) k

/-- Give up the passes whose deadline has come. -/
def expire (d : Dispatcher) (now : Nat) : Dispatcher :=
  let expired := d.running.filter fun e => e.1 ≤ now
  expired.foldl (fun d e => d.conclude now e.2 (.error .cancelled))
    { d with running := d.running.filter fun e => now < e.1 }

/-- Whether one more pass may be under way. -/
def hasRoom (d : Dispatcher) : Bool :=
  d.concurrency == 0 || d.running.length < d.concurrency

/-- Start the pass of a key. -/
def start (d : Dispatcher) (now : Nat) (k : WorkloadKey) : Dispatcher :=
  match d.objects.get? k with
  | none => d
  | some _ =>
    match d.controller.begin d.store k with
    | (s, .returned result) => { d with store := s }.conclude now k result
    | (s, .waiting) =>
      { d with store := s, running := d.running ++ [(now + Controller.deadline, k)] }

/-- Start the passes of keys in order, as far as there is room; the rest wait on, in order. -/
def startAll (now : Nat) : List (Nat × WorkloadKey) → Dispatcher → Dispatcher
  | [], d => d
  | e :: rest, d =>
    if d.hasRoom && !(d.running.any fun r => r.2 = e.2) then startAll now rest (d.start now e.2)
    else
      let d := startAll now rest d
      { d with due := e :: d.due }

/-- Start what is due, as far as there is room. -/
def startDue (d : Dispatcher) (now : Nat) : Dispatcher :=
  if d.ready then
    startAll now (d.due.filter fun e => e.1 ≤ now)
      { d with due := d.due.filter fun e => now < e.1 }
  else d

/-- The next time at which something happens. -/
def nextTime? (d : Dispatcher) (now : Nat) (batches : List Watch.Batch) : Option Nat :=
  (((batches.map Watch.Batch.time) ++ d.running.map (·.1) ++ d.due.map (·.1)).filter
    fun t => now < t).min?

/-- Let time pass from one event to the next until a limit. -/
def advance (limit : Nat) : Nat → Nat → List Watch.Batch → Dispatcher →
    Except KeyFault Dispatcher
  | 0, _, _, d => .ok d
  | fuel + 1, now, batches, d => do
    let (d, batches) ← d.takeInBatches now batches
    let d := (d.expire now).startDue now
    match d.nextTime? now batches with
    | none => .ok d
    | some t => if t < limit then advance limit fuel t batches d else .ok d

/-- Request shutdown: passes under way are cancelled. -/
def shutDown (d : Dispatcher) (now : Nat) : Dispatcher :=
  let d := d.running.foldl (fun d e => d.conclude now e.2 (.error .cancelled))
    { d with running := [], controller := { d.controller with shutdown := true } }
  { d with due := [] }

/-- Run the controller on the reports of a timeline until a limit, and shut it down then. Passes
of one key are at least a second apart, which bounds the number of events. -/
def run (c : Controller) (s : Store) (concurrency : Nat) (tracing : Bool) (limit : Nat)
    (t : Watch.Timeline) : Except KeyFault Dispatcher :=
  let fuel := (limit / 500 + 4) * (t.size + 4)
  let d : Dispatcher := { controller := c, store := s, concurrency, tracing }
  (advance limit fuel 0 t.batches d).map fun d => d.shutDown limit

end Dispatcher

end MountOwnership
