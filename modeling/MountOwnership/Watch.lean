import MountOwnership.Triggers

/-!
# Watching the API server

What a watch reports, and when, if the API server answers from a script. The
watch lists all objects and then follows the changes. It watches again when the
server ends a watch, and lists anew when it has lost track: when a report has no
version to go on from, or when the server says that the version is too old. After
an error it waits, twice as long as before up to a bound.

Times are milliseconds from the start of the watch.
-/

namespace MountOwnership

namespace Watch

/-- What the API server sends while it is watched. -/
inductive ServerReport where
  /-- An object is there, in this state. -/
  | present (rs : ReplicaSet)
  /-- An object is gone. -/
  | gone (rs : ReplicaSet)
  /-- The version to go on from, without a change. -/
  | bookmark
  /-- The watch failed with a status. -/
  | failed (code : Nat)

/-- The answer to a request to watch. -/
structure ServerWatch where
  /-- What is sent. -/
  reports : List ServerReport
  /-- Whether the watch ends then, or stays open. -/
  ends : Bool

/-- The answers of the API server. -/
structure ServerScript where
  /-- The answers to requests to list; the last one is given again. -/
  lists : List (List ReplicaSet)
  /-- The answers to requests to watch; without one the watch stays open and silent. -/
  watches : List ServerWatch

namespace ServerScript

/-- The answer to a request to list. -/
def list (s : ServerScript) (n : Nat) : List ReplicaSet :=
  (s.lists[n]?.or s.lists.getLast?).getD []

end ServerScript

/-- The code by which the API server says that a version is too old. -/
def codeGone : Nat := 410

/-- The delay after an error, doubled at every further one. -/
structure Delay where
  /-- The number of errors since the delay was at its shortest. -/
  count : Nat := 0
  /-- The time of the last error. -/
  last : Option Nat := none

/-- The shortest delay. -/
def shortestDelay : Nat := 800

/-- The longest delay. -/
def longestDelay : Nat := 30000

/-- The time without an error after which the delay is at its shortest again. -/
def calmTime : Nat := 120000

/-- The end of the wait after an error, and the delay after it. -/
def Delay.after (d : Delay) (now : Nat) : Nat × Delay :=
  let count := match d.last with
    | some last => if last + calmTime < now then 0 else d.count
    | none => d.count
  (now + min (shortestDelay * Nat.pow 2 (min count 16)) longestDelay, ⟨count + 1, some now⟩)

/-- Reports that come at one time. -/
structure Batch where
  /-- The time. -/
  time : Nat
  /-- The reports. -/
  items : List WatchItem

/-- How following a watch ends. -/
inductive WatchEnd where
  /-- All objects have to be listed again. -/
  | lost
  /-- The server ended the watch, or keeps it open. -/
  | finished

/-- Where following a watch leaves off. -/
structure Followed where
  /-- What was reported. -/
  batches : List Batch
  /-- The time of what comes next. -/
  time : Nat
  /-- The delay after the next error. -/
  delay : Delay
  /-- How it ended. -/
  ended : WatchEnd

/-- Put an earlier batch in front. -/
def Followed.cons (b : Batch) (f : Followed) : Followed := { f with batches := b :: f.batches }

/-- Follow the reports of a watch. -/
def follow (now : Nat) (delay : Delay) : List ServerReport → Followed
  | [] => ⟨[], now, delay, .finished⟩
  | report :: reports =>
    let change (rs : ReplicaSet) (event : WatchEvent) : Followed :=
      if (rs.metadata.resourceVersion.getD "").isEmpty then
        let (later, delay) := delay.after now
        ⟨[⟨now, [.error .noResourceVersion]⟩], later, delay, .lost⟩
      else (follow now delay reports).cons ⟨now, [.ok event]⟩
    match report with
    | .bookmark => follow now delay reports
    | .present rs => change rs (.apply rs)
    | .gone rs => change rs (.delete rs)
    | .failed code =>
      let (later, delay) := delay.after now
      let batch : Batch := ⟨now, [.error (.refused code)]⟩
      if code = codeGone then ⟨[batch], later, delay, .lost⟩
      else (follow later delay reports).cons batch

/-- What a watch reports over a time, and the requests it makes. -/
structure Timeline where
  /-- What is reported. -/
  batches : List Batch := []
  /-- The number of requests to list. -/
  lists : Nat := 0
  /-- The number of requests to watch. -/
  watches : Nat := 0

/-- The number of reported items and of the times at which they come. -/
def Timeline.size (t : Timeline) : Nat :=
  t.batches.foldl (fun n b => n + b.items.length + 1) 0

/-- The reports of a list. -/
def listItems (objects : List ReplicaSet) : List WatchItem :=
  .ok .init :: (objects.map fun rs => .ok (.initApply rs)) ++ [.ok .initDone]

/-- Count the requests of one more watch at a time, and of the list before it if `listing`. -/
def Timeline.open (t : Timeline) (script : ServerScript) (now : Nat) (listing : Bool) :
    Timeline :=
  let t := { t with watches := t.watches + 1 }
  if listing then
    { t with
      batches := t.batches ++ [⟨now, listItems (script.list t.lists)⟩]
      lists := t.lists + 1 }
  else t

/-- Go on with a script from a time, after what was done so far. `listing` says whether a list
comes first. -/
def continueFrom (script : ServerScript) (limit now : Nat) (delay : Delay) (listing : Bool)
    (t : Timeline) : List ServerWatch → Timeline
  | [] => if now < limit then t.open script now listing else t
  | w :: rest =>
    if now < limit then
      let t := t.open script now listing
      let f := follow now delay w.reports
      let t := { t with batches := t.batches ++ f.batches }
      match f.ended with
      | .lost => continueFrom script limit f.time f.delay true t rest
      | .finished =>
        if w.ends then continueFrom script limit f.time f.delay false t rest else t
    else t

/-- What a watch of the scripted server reports before a limit of time. -/
def ServerScript.timeline (script : ServerScript) (limit : Nat) : Timeline :=
  let t := continueFrom script limit 0 {} true {} script.watches
  { t with batches := t.batches.filter fun b => b.time < limit }

end Watch

end MountOwnership
