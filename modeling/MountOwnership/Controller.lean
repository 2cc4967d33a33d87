import MountOwnership.Backoff
import MountOwnership.Event
import MountOwnership.Pass
import MountOwnership.Settings

/-!
# The controller

A controller runs passes and decides what comes after them. A pass that failed
and is worth another try is repeated after a delay, which grows with every
failure of the same ReplicaSet and starts anew after a success or a final
failure. A pass that still waits for a call at its deadline is given up.

Once shutdown is requested, every pass stops before its next call.
-/

namespace MountOwnership

/-- What comes after a pass. -/
inductive Action where
  /-- Nothing, until the ReplicaSet changes. -/
  | awaitChange
  /-- Another pass after a delay. -/
  | requeue (delay : Time.Span)
deriving DecidableEq

/-- A controller. -/
structure Controller where
  /-- What its passes have in common. -/
  context : Context
  /-- The backoff of every ReplicaSet that failed. -/
  backoffs : Table WorkloadKey Backoff := {}
  /-- Whether shutdown is requested. -/
  shutdown : Bool := false

namespace Controller

/-- A new controller that starts at a time. -/
def ofSettings (s : Settings) (start : Time.Instant) : Controller where
  context :=
    { filter := .ofSources s.patterns
      dryRun := s.dryRun
      start := start }

/-- The milliseconds that a pass may take. -/
def deadline : Nat := 30000

/-- The delay before a ReplicaSet is tried again; the one after it will be longer. -/
def nextBackoff (c : Controller) (k : WorkloadKey) : Time.Span × Controller :=
  let (delay, b) := ((c.backoffs.get? k).getD .standard).next
  (delay, { c with backoffs := c.backoffs.insert k b })

/-- Start the backoff of a ReplicaSet anew, if it has one. -/
def resetBackoff (c : Controller) (k : WorkloadKey) : Controller :=
  match c.backoffs.get? k with
  | none => c
  | some b => { c with backoffs := c.backoffs.insert k b.reset }

/-- The namespace in which a ReplicaSet is looked up. -/
def lookupNamespace (k : WorkloadKey) : String := k.ns.getD ""

/-- Run the pass of a ReplicaSet until it is over or waits for a call that never completes. -/
def begin (c : Controller) (s : Store) (k : WorkloadKey) : Store × Pass.Ending :=
  (Pass.reconcile c.context (lookupNamespace k) k.name).run
    (if c.shutdown then some 0 else none) s

/-- Take in the result of a pass. -/
def conclude (c : Controller) (k : WorkloadKey) (result : Except ControllerError Outcome) :
    Controller × Except ControllerError Action :=
  match result with
  | .ok _ => (c.resetBackoff k, .ok .awaitChange)
  | .error e => (c, .error e)

/-- What to do after a pass failed. -/
def onError (c : Controller) (k : WorkloadKey) (e : ControllerError) : Controller × Action :=
  if e.isRetryable then
    let (delay, c) := c.nextBackoff k
    (c, .requeue delay)
  else (c.resetBackoff k, .awaitChange)

/-- What came of work on a ReplicaSet. -/
structure Work where
  /-- The controller afterwards. -/
  controller : Controller
  /-- The store afterwards. -/
  store : Store
  /-- The milliseconds that passed. -/
  elapsed : Nat
  /-- What comes after the pass, or why it failed. -/
  result : Except ControllerError Action

/-- Work on a ReplicaSet, for no longer than the deadline. If shutdown is requested while the pass
waits, the pass is cancelled then. -/
def work (c : Controller) (s : Store) (k : WorkloadKey) (shutdownAfter : Option Nat) : Work :=
  match c.begin s k with
  | (s, .returned result) =>
    let (c, result) := c.conclude k result
    ⟨c, s, 0, result⟩
  | (s, .waiting) =>
    match shutdownAfter with
    | some t =>
      if t < deadline then ⟨{ c with shutdown := true }, s, t, .error .cancelled⟩
      else ⟨c, s, deadline, .error .cancelled⟩
    | none => ⟨c, s, deadline, .error .cancelled⟩

end Controller

end MountOwnership
