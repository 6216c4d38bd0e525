import QueueDrain.Error
import QueueDrain.Json.Basic

/-!
A stand-in for the system under test: its state and what each request does to it.

The lab holds jobs that are pending, in work or done.  Jobs are seeded and then dispatched; from
there on every report is also a step of the simulation, in which the jobs in work are finished and
the next batch of pending jobs is taken up.  Gauges show the heap as if every job that is not done
took up memory.

Design notes:
* What a dispatch sets and what the end of the work sets are values of their own in the state, each
  of which may be missing; that some of them are only there together is a property of all histories.
* A reset forgets the run but keeps its number and the pending jobs.
* Requests are counted before anything can go wrong with them.  An injected failure, or an answer
  that is made to stall, changes nothing else; if both are asked for, the answer stalls.
-/

namespace QueueDrain.Lab

/-- What a lab is told to do. -/
structure Options where
  /-- How many pending jobs a report takes up. -/
  drainPerReport : Nat := 100
  /-- The requests that are answered with a failure. -/
  failOn : Option Phase := none
  failStatus : Nat := 500
  /-- The requests whose answers never end. -/
  stallOn : Option Phase := none
  /-- Whether there are heap gauges. -/
  heapMetrics : Bool := true
  /-- The errors that a finished run reports. -/
  errorsPerRun : Nat := 0
  /-- The retries that a finished run reports. -/
  retriesPerRun : Nat := 0
deriving DecidableEq

/-- The state of a run.  Its times are in milliseconds. -/
structure Run where
  /-- The number of dispatches so far. -/
  id : Nat := 0
  /-- How the jobs were dispatched. -/
  mode : Option Mode := none
  /-- The jobs that were pending at the dispatch. -/
  items : Nat := 0
  pending : Nat := 0
  processing : Nat := 0
  done : Nat := 0
  /-- When the jobs were dispatched, for the time that they take. -/
  startedAt : Option Nat := none
  /-- When the jobs were dispatched, since the start of the epoch. -/
  startedAtMs : Option Nat := none
  /-- When the last job was done, since the start of the epoch. -/
  finishedAtMs : Option Nat := none
  /-- The time from the dispatch until then. -/
  drainTimeMs : Option Nat := none
deriving DecidableEq

namespace Run

/-- Whether no job is left. -/
def isDrained (run : Run) : Bool := run.pending = 0 ∧ run.processing = 0

def reset (run : Run) : Run where
  id := run.id
  pending := run.pending

/-- The run with more pending jobs. -/
def seed (items : Nat) (run : Run) : Run := { run with pending := run.pending + items }

/-- The run after a dispatch. -/
def start (mode : Mode) (now : Nat) (run : Run) : Run :=
  { run with
    id := run.id + 1
    mode := some mode
    items := run.pending
    startedAt := some now
    startedAtMs := some now }

/-- One step: the jobs in work are finished, and at most `batch` pending jobs are taken up. -/
def move (batch : Nat) (run : Run) : Run :=
  { run with
    done := run.done + run.processing
    processing := min batch run.pending
    pending := run.pending - min batch run.pending }

/-- Takes note that the run has ended, if it has and it is not yet known. -/
def close (now : Nat) (run : Run) : Run :=
  match run.startedAt with
  | none => run
  | some started =>
    if run.isDrained ∧ run.finishedAtMs = none then
      { run with finishedAtMs := some now, drainTimeMs := some (now - started) }
    else run

/-- The run after one step of the simulation; nothing happens before a dispatch. -/
def advance (batch now : Nat) (run : Run) : Run :=
  match run.mode with
  | none => run
  | some _ => (run.move batch).close now

/-! ### Reports -/

/-- Whether the run has been dispatched and has no job left. -/
def isFinished (run : Run) : Bool := run.isDrained && run.mode.isSome

/-- The errors that a report shows. -/
def errors (options : Options) (run : Run) : Nat :=
  if run.isFinished then options.errorsPerRun else 0

/-- The retries that a report shows. -/
def retries (options : Options) (run : Run) : Nat :=
  if run.isFinished then options.retriesPerRun else 0

/-- The time from the dispatch to the end; zero before the end. -/
def elapsedMs (run : Run) : Nat := run.drainTimeMs.getD 0

/-- The jobs that a minute would finish; zero if no time has passed. -/
def jobsPerMinute (run : Run) : Binary64 :=
  if 0 < run.elapsedMs then .ofNat run.done * .ofNat 60000 / .ofNat run.elapsedMs
  else .zero false

/-- A value that may be missing, as a document. -/
def orNull {α : Type} (encode : α → Json) (a : Option α) : Json := (a.map encode).getD .null

def report (options : Options) (run : Run) : Json.Fields :=
  let errors := run.errors options
  let retries := run.retries options
  Json.Fields.ofList
    [("pending", .ofNat run.pending), ("processing", .ofNat run.processing),
      ("done", .ofNat run.done), ("error", .ofNat errors), ("retryScheduled", .ofNat 0),
      ("totalProcessed", .ofNat run.done), ("totalSuccess", .ofNat (run.done - errors)),
      ("totalErrors", .ofNat errors), ("totalRetryScheduled", .ofNat retries),
      ("totalStuckRecovered", .ofNat 0),
      ("avgProcessingMs", .ofNat (if 0 < run.done then 5 else 0)),
      ("totalElapsedMs", .ofNat run.elapsedMs), ("jobsPerMinute", .ofFloat run.jobsPerMinute),
      ("runId", orNull (fun _ => .string ("run-" ++ toString run.id)) run.mode),
      ("scenario", .string "default"), ("mode", orNull (fun m => .string m.name) run.mode),
      ("items", .ofNat run.items), ("startedAtMs", orNull .ofNat run.startedAtMs),
      ("finishedAtMs", orNull .ofNat run.finishedAtMs),
      ("drainTimeMs", orNull .ofNat run.drainTimeMs),
      ("successCount", .ofNat (run.done - errors)), ("failCount", .ofNat errors),
      ("retryCount", .ofNat retries), ("runDone", .bool run.isDrained)]

end Run

/-! ### Gauges -/

/-- The heap that is in use without any job, in bytes. -/
def baseHeap : Binary64 := .ofNat (64 * 1024 * 1024)

/-- The heap that a job takes up. -/
def heapPerJob : Binary64 := .ofNat (16 * 1024)

/-- The size of the heap. -/
def maxHeap : Binary64 := .ofNat (4096 * 1024 * 1024)

/-- The heap in use. -/
def usedHeap (run : Run) : Binary64 := baseHeap + .ofNat (run.pending + run.processing) * heapPerJob

/-- The heap that is set aside, half as much again as is in use. -/
def committedHeap (run : Run) : Binary64 :=
  (usedHeap run * (.ofNat 3 / .ofNat 2)).minimum maxHeap

/-- The value of the gauge with a name, if there is one. -/
def gauge? (run : Run) (name : String) : Option Binary64 :=
  if name = "jvm.memory.used" then some (usedHeap run)
  else if name = "jvm.memory.committed" then some (committedHeap run)
  else if name = "jvm.memory.max" then some maxHeap
  else none

end QueueDrain.Lab
