import QueueDrain.Csv.Basic
import QueueDrain.Csv.Cell
import QueueDrain.Rollup

/-!
The summary table: one row for each size and mode.
-/

namespace QueueDrain.SummaryRow

/-- The names of the columns. -/
def header : List String :=
  ["items", "mode", "runs", "avg_drain_ms", "avg_processing_ms", "avg_jobs_per_min", "errors",
    "retries"]

def cells (row : SummaryRow) : List String :=
  [toString row.items, row.mode.name, toString row.runs, (Json.ofFloat row.avgDrainMs).cell,
    (Json.ofFloat row.avgProcessingMs).cell, (Json.ofFloat row.avgJobsPerMin).cell,
    toString row.errors, toString row.retries]

/-- The text of the table of a list of rows. -/
def csv (rows : List SummaryRow) : String := Csv.write (header :: rows.map cells)

end QueueDrain.SummaryRow
