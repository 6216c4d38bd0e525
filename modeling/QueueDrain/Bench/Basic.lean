import QueueDrain.Error
import QueueDrain.Rollup

/-!
The benchmark itself: how one iteration runs, and how the iterations of a plan follow each other.

Everything a benchmark does to the world goes through a `Bench`: the commands and reports of the
system under test, the clock, the sampler, and the place where results are kept.  `Bench.wait` polls
until the work is drained, `Bench.runOnce` runs one iteration, `Bench.runMatrix` runs them all.  The
first failure ends the run; what has been recorded until then stays recorded.

Design notes:
* The steps are written for any monad, so that the same run can be made against a real system and on
  a virtual clock.
* Polling pauses between two reports only.  Nothing bounds the number of reports but the clock.
-/

namespace QueueDrain

/-- A request that changes the system under test. -/
inductive Command where
  | reset
  | seed (items : Nat)
  | dispatch (mode : Mode)
deriving DecidableEq

def Command.phase : Command → Phase
  | .reset => .reset
  | .seed _ => .seed
  | .dispatch _ => .dispatch

/-- What a benchmark needs from its surroundings. -/
structure Bench (m : Type → Type) where
  /-- The time that has passed since some fixed moment. -/
  now : m Duration
  /-- Waits for some milliseconds. -/
  sleep (ms : Nat) : m Unit
  command (c : Command) : m (Except Error Unit)
  report : m (Except Error Report)
  /-- Starts to sample the heap in the background, with a pause between the ticks. -/
  startSampler (intervalMs : Nat) : m Unit
  /-- Asks the sampler started last to stop, waits for it for a limited time, and ends it. -/
  finishSampler (graceMs : Nat) : m Heap.Summary
  /-- Takes note that the iteration at a position begins. -/
  announce (position : Nat) (iteration : Iteration) : m Unit
  /-- Keeps the result of an iteration. -/
  record (result : RunResult) : m (Except Error Unit)

namespace Bench

/-- A benchmark in larger surroundings. -/
def lift {m n : Type → Type} (f : {α : Type} → m α → n α) (bench : Bench m) : Bench n where
  now := f bench.now
  sleep ms := f (bench.sleep ms)
  command c := f (bench.command c)
  report := f bench.report
  startSampler intervalMs := f (bench.startSampler intervalMs)
  finishSampler graceMs := f (bench.finishSampler graceMs)
  announce position iteration := f (bench.announce position iteration)
  record result := f (bench.record result)

variable {m : Type → Type} [Monad m] (bench : Bench m)

/--
Fetches one report: what the wait ends with, or nothing if there is still time for another one.
-/
def look (started : Duration) (timeoutMs : Nat) : m (Option (Except Error Report)) := do
  match ← bench.report with
  | .error e => return some (.error e)
  | .ok report =>
    if report.isDrained then return some (.ok report)
    else
      let elapsed := (← bench.now).since started
      if Duration.ofMillis timeoutMs < elapsed then return some (.error (.pollTimeout elapsed))
      else return none

/-- Looks for a drained report, and pauses if there is time for another look. -/
def round (started : Duration) (intervalMs timeoutMs : Nat) : m (Unit ⊕ Except Error Report) := do
  match ← bench.look started timeoutMs with
  | some outcome => return .inr outcome
  | none =>
    bench.sleep intervalMs
    return .inl ()

/-- Waits until the work is drained, from now on. -/
def wait (intervalMs timeoutMs : Nat) : m (Except Error Report) := do
  let started ← bench.now
  repeatM (fun _ => bench.round started intervalMs timeoutMs) ()

/-- Puts jobs into the queue, has them worked off, and waits for that. -/
def drain (plan : Plan) (iteration : Iteration) : m (Except Error Report) := do
  match ← bench.command (.seed iteration.items) with
  | .error e => return .error e
  | .ok () =>
    match ← bench.command (.dispatch iteration.mode) with
    | .error e => return .error e
    | .ok () => bench.wait plan.pollIntervalMs plan.timeoutMs

/-- Does some work while the heap is sampled, if the plan asks for that. -/
def sampled {α : Type} (plan : Plan) (work : m α) : m (α × Option Heap.Summary) :=
  if plan.sampleHeap then do
    bench.startSampler plan.samplerIntervalMs
    let outcome ← work
    let summary ← bench.finishSampler plan.joinGraceMs
    return (outcome, some summary)
  else do
    let outcome ← work
    return (outcome, none)

/-- Runs one iteration.  The heap is sampled from the end of the reset until the work is drained. -/
def runOnce (plan : Plan) (iteration : Iteration) : m (Except Error RunResult) := do
  match ← bench.command .reset with
  | .error e => return .error e
  | .ok () =>
    let (outcome, memory) ← bench.sampled plan (bench.drain plan iteration)
    return outcome.map fun report =>
      { items := iteration.items, mode := iteration.mode, run := iteration.run, report, memory }

/-- Runs so many iterations from a position on, and records each result. -/
def runFrom (plan : Plan) : (remaining position : Nat) → m (Except Error (List RunResult))
  | 0, _ => return .ok []
  | remaining + 1, position =>
    match plan.iterationAt? position with
    | none => return .ok []
    | some iteration => do
      bench.announce position iteration
      match ← bench.runOnce plan iteration with
      | .error e => return .error e
      | .ok result =>
        match ← bench.record result with
        | .error e => return .error e
        | .ok () => return (← runFrom plan remaining (position + 1)).map (result :: ·)

def runMatrix (plan : Plan) : m (Except Error (List RunResult)) :=
  bench.runFrom plan plan.countIterations 0

end Bench

end QueueDrain
