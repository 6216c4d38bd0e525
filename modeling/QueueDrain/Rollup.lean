import QueueDrain.Heap.Summary
import QueueDrain.Mode
import QueueDrain.Report

/-!
Results of iterations and their rollup.

A `Rollup` keeps running sums for every pair of a size and a mode that has occurred (`Tally`),
ascending by size and then by the name of the mode; `rows` turns them into averages and totals.

Totals are machine words: a sum of more than 64 bits loses the upper ones.
-/

namespace QueueDrain

/-- The outcome of one iteration. -/
structure RunResult where
  items : Nat
  mode : Mode
  run : Nat
  report : Report
  /-- The heap statistics, if the heap was sampled. -/
  memory : Option Heap.Summary

/-- The report with the heap statistics put over it. -/
def RunResult.record (result : RunResult) : Json.Fields :=
  match result.memory with
  | some summary => result.report.fields.merge summary.fields
  | none => result.report.fields

/-- The finished summary of one size and mode. -/
structure SummaryRow where
  items : Nat
  mode : Mode
  runs : Nat
  avgDrainMs : Binary64
  avgProcessingMs : Binary64
  avgJobsPerMin : Binary64
  /-- A total over the runs, not an average. -/
  errors : Int64
  /-- A total over the runs, not an average. -/
  retries : Int64
deriving DecidableEq

/-- The running sums of one size and mode. -/
structure Tally where
  items : Nat
  mode : Mode
  runs : Nat := 0
  drainMs : Binary64 := .zero false
  processingMs : Binary64 := .zero false
  jobsPerMin : Binary64 := .zero false
  errors : Int64 := 0
  retries : Int64 := 0
deriving DecidableEq

namespace Tally

/-- The sums with one report more. -/
def add (t : Tally) (report : Report) : Tally :=
  { t with
    runs := t.runs + 1
    drainMs := t.drainMs + report.number "drainTimeMs"
    processingMs := t.processingMs + report.number "avgProcessingMs"
    jobsPerMin := t.jobsPerMin + report.number "jobsPerMinute"
    errors := t.errors + .ofInt (report.count "totalErrors")
    retries := t.retries + .ofInt (report.count "totalRetryScheduled") }

/-- The average of a sum over the runs, with two decimals; without runs the sum itself. -/
def average (t : Tally) (sum : Binary64) : Binary64 :=
  if t.runs = 0 then sum else (sum / .ofNat t.runs).hundredths

def finish (t : Tally) : SummaryRow where
  items := t.items
  mode := t.mode
  runs := t.runs
  avgDrainMs := t.average t.drainMs
  avgProcessingMs := t.average t.processingMs
  avgJobsPerMin := t.average t.jobsPerMin
  errors := t.errors
  retries := t.retries

/-- Whether the sums belong to this size and mode. -/
def isFor (t : Tally) (items : Nat) (mode : Mode) : Bool := t.items = items ∧ t.mode = mode

/-- Whether a size and mode come before those of the sums: by size, then by the name of the mode. -/
def isAfter (t : Tally) (items : Nat) (mode : Mode) : Bool :=
  items < t.items ∨ (items = t.items ∧ mode.name < t.mode.name)

end Tally

/-- Running sums, ascending by size and then by the name of the mode, each pair once. -/
abbrev Rollup := List Tally

namespace Rollup

/-- The rollup with one result more. -/
def add (result : RunResult) : Rollup → Rollup
  | [] => [Tally.add { items := result.items, mode := result.mode } result.report]
  | t :: rollup =>
    if t.isFor result.items result.mode then t.add result.report :: rollup
    else if t.isAfter result.items result.mode then
      Tally.add { items := result.items, mode := result.mode } result.report :: t :: rollup
    else t :: add result rollup

def rows (rollup : Rollup) : List SummaryRow := rollup.map Tally.finish

end Rollup

def rollup (results : List RunResult) : Rollup :=
  results.foldl (fun r result => Rollup.add result r) []

def summarizeRuns (results : List RunResult) : List SummaryRow := (rollup results).rows

end QueueDrain
