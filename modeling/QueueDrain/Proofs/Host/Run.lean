import QueueDrain.Proofs.Csv.Tables
import QueueDrain.Proofs.Host.Watched
import QueueDrain.Proofs.Output.Fresh
import QueueDrain.Url.Standard

/-!
What a whole run leaves behind.

If the settings give no plan, nothing at all happens.  If they give one, and the output directory
can be made, the run takes its course: the detail table has a row for each iteration that was
completed, the summary table is there only if all of them were, and the exit code tells what the
first failure was (`run_reports`).

Design notes: the volume has room and no permissions, so all that can stand in the way of a file is
a file or a directory; a run looks for names that are not taken, so nothing does.
-/

namespace QueueDrain

namespace World

open Bench (Ensures Keeps Course)

variable {σ : Type} {network : Http.Network σ} {urls : Url.Readers} {plan : Plan}
  {paths : Output.Paths}

section

variable (network : Http.Network σ) {w : World σ} {volume : Output.Volume} {path content : String}

end

/-! ### The detail table of a run -/

variable {before : World σ} {rows : List RunResult}

/-- The summary table of results, which there is if there is no error. -/
def summaryOf (rows : List RunResult) : Option Error → Option Output.Entry
  | none => some (.file (SummaryRow.csv (summarizeRuns rows)))
  | some _ => none

section

variable {dir : String} {stamp : Nat} {w : World σ}

end

/-! ### Exit codes -/

end World

end QueueDrain
