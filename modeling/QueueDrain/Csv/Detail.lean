import QueueDrain.Csv.Basic
import QueueDrain.Csv.Cell
import QueueDrain.Rollup

/-!
The detail table: one row for each finished iteration.

Every column is named and says what it shows of a result (`Source`).  A field is looked up in the
report with the heap statistics put over it, and a default is shown where there is none.
-/

namespace QueueDrain.Detail

/-- What a column shows. -/
inductive Source where
  | run
  | mode
  | items
  /-- A field of the enriched report, or a default if there is no such field. -/
  | field (key : String) (default : Json)

structure Column where
  header : String
  source : Source

/-- The columns that every table begins with. -/
def leadingColumns : List Column := [⟨"run", .run⟩, ⟨"mode", .mode⟩, ⟨"items", .items⟩]

/-- The fields of the report that the table of the flow profile shows. -/
def flowFields : List String :=
  ["pending", "processing", "done", "error", "retryScheduled", "totalProcessed", "totalSuccess",
    "totalErrors", "totalRetryScheduled", "totalStuckRecovered", "avgProcessingMs",
    "totalElapsedMs", "jobsPerMinute", "runId", "scenario", "startedAtMs", "finishedAtMs",
    "drainTimeMs", "successCount", "failCount", "retryCount", "runDone"]

/-- A column for each heap statistic; without a sample it shows zero. -/
def heapColumns : List Column :=
  Heap.Summary.names.map fun name => ⟨name, .field name (Json.ofFloat (.zero false))⟩

/--
The columns of a profile's table; the flow profile has heap columns only if the heap is sampled.
-/
def columns (profile : Profile) (sampleHeap : Bool) : List Column :=
  leadingColumns ++
    match profile with
    | .flow =>
      flowFields.map (fun key => ⟨key, .field key .null⟩) ++ if sampleHeap then heapColumns else []
    | .memory =>
      [⟨"drain_ms", .field "drainTimeMs" (.ofNat 0)⟩] ++ heapColumns ++
        [⟨"success_count", .field "totalSuccess" (.ofNat 0)⟩,
          ⟨"error_count", .field "totalErrors" (.ofNat 0)⟩,
          ⟨"retry_count", .field "totalRetryScheduled" (.ofNat 0)⟩]

/-- The cell of a result in a column with this source. -/
def Source.cell (result : RunResult) : Source → String
  | .run => toString result.run
  | .mode => result.mode.name
  | .items => toString result.items
  | .field key default => ((result.record.get? key).getD default).cell

/-- The names of the columns. -/
def header (profile : Profile) (sampleHeap : Bool) : List String :=
  (columns profile sampleHeap).map (·.header)

def row (profile : Profile) (sampleHeap : Bool) (result : RunResult) : List String :=
  (columns profile sampleHeap).map (·.source.cell result)

def table (profile : Profile) (sampleHeap : Bool) (results : List RunResult) : List (List String) :=
  header profile sampleHeap :: results.map (row profile sampleHeap)

/-- The text of the table of a list of results. -/
def csv (profile : Profile) (sampleHeap : Bool) (results : List RunResult) : String :=
  Csv.write (table profile sampleHeap results)

end QueueDrain.Detail
