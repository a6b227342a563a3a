import EmbeddedSql.Assoc
import EmbeddedSql.Uri.Basic

/-!
# Server.Debouncer — one job per document, after a delay

Work on a document waits for a delay.  A later job for the same document takes the place of the one
that waits, so a burst of calls leads to one job.  A job that has started runs to its end, whatever
is called in the meantime.

Time is counted in milliseconds and moves in `wait` calls only.  After every call all jobs that are
due have started, and all that are over have finished.

* `Server.Job` — what is to be done and how long it takes;
* `Server.Slot` — the latest job of a document: waiting, or started;
* `Server.Debouncer` — the latest job of every document, and all jobs that run;
* `Server.Debouncer.step` — a call and the events it leads to;
* `Server.Debouncer.pending` — how many documents have a latest job that is not over.
-/

namespace EmbeddedSql
namespace Server

structure Job where
  name : String
  takes : Nat
deriving DecidableEq, Repr, Inhabited

/-- The latest job of a document. -/
inductive Slot where
  /-- It starts at `due`. -/
  | waiting (due : Nat) (job : Job)
  /-- It has started and is over at `finish`. -/
  | started (finish : Nat)
deriving DecidableEq, Repr

inductive Stage where
  | start
  | finish
deriving DecidableEq, Repr

structure Event where
  time : Nat
  job : String
  stage : Stage
deriving DecidableEq, Repr

namespace Event

/-- Events are listed by time, then by the name of the job. -/
def le (a b : Event) : Bool :=
  a.time < b.time || (a.time == b.time && decide (a.job ≤ b.job))

end Event

/-- A job that has started, and when it is over. -/
structure Run where
  job : Job
  finish : Nat
deriving DecidableEq, Repr

namespace Slot

/-- The run of a waiting job that is due. -/
def due? (now : Nat) : Slot → Option Run
  | waiting due job => if due ≤ now then some ⟨job, due + job.takes⟩ else none
  | started _ => none

/-- A slot after its job, if it is due, has started. -/
def advance (now : Nat) (s : Slot) : Slot :=
  match s.due? now with
  | some run => started run.finish
  | none => s

def isPending (now : Nat) : Slot → Bool
  | waiting _ _ => true
  | started finish => now < finish

end Slot

structure Debouncer where
  now : Nat
  slots : List (Uri × Slot)
  running : List Run
deriving DecidableEq, Repr

namespace Debouncer

def empty : Debouncer :=
  ⟨0, [], []⟩

/-! ## Calls -/

/-- Let a job wait for its delay, in place of the latest job of the document. -/
def schedule (d : Debouncer) (uri : Uri) (delay : Nat) (job : Job) : Debouncer :=
  { d with slots := Assoc.set uri (.waiting (d.now + delay) job) d.slots }

def cancel (d : Debouncer) (uri : Uri) : Debouncer :=
  { d with slots := Assoc.erase uri d.slots }

def cancelAll (d : Debouncer) : Debouncer :=
  { d with slots := [] }

def wait (d : Debouncer) (ms : Nat) : Debouncer :=
  { d with now := d.now + ms }

inductive Call where
  | schedule (uri : Uri) (delay : Nat) (job : Job)
  | cancel (uri : Uri)
  | cancelAll
  | wait (ms : Nat)
deriving DecidableEq, Repr

def apply (d : Debouncer) : Call → Debouncer
  | .schedule uri delay job => d.schedule uri delay job
  | .cancel uri => d.cancel uri
  | .cancelAll => d.cancelAll
  | .wait ms => d.wait ms

/-! ## Due jobs -/

def due (d : Debouncer) : List Run :=
  d.slots.filterMap fun (_, s) => s.due? d.now

def finishEvent? (now : Nat) (r : Run) : Option Event :=
  if r.finish ≤ now then some ⟨r.finish, r.job.name, .finish⟩ else none

/-- The events of a job that starts. -/
def startEvents (now : Nat) (r : Run) : List Event :=
  -- A run is kept by its end, so the start is found by going back.
  ⟨r.finish - r.job.takes, r.job.name, .start⟩ :: (finishEvent? now r).toList

/-- Start all jobs that are due and finish all that are over. -/
def settle (d : Debouncer) : Debouncer × List Event :=
  let runs := d.due
  let events := runs.flatMap (startEvents d.now) ++ d.running.filterMap (finishEvent? d.now)
  ({ d with
      slots := d.slots.map fun (uri, s) => (uri, s.advance d.now)
      -- A job may start and be over in one step; its events are told, but it does not run on.
      running := (d.running ++ runs).filter fun r => d.now < r.finish },
    events.mergeSort Event.le)

/-- A call, and all that it leads to by the present time. -/
def step (d : Debouncer) (c : Call) : Debouncer × List Event :=
  (d.apply c).settle

/-! ## Pending jobs -/

def pending (d : Debouncer) : Nat :=
  (d.slots.filter fun (_, s) => s.isPending d.now).length

end Debouncer
end Server
end EmbeddedSql
