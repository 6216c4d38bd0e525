import QueueDrain.Json.Basic

/-!
Status reports of the system under test.

A report is an object whose fields are carried along untouched.  Only three of them are interpreted:
the work is drained when none of the jobs is pending, processing or scheduled for a retry.
-/

namespace QueueDrain

/-- A status report: the fields of a JSON object. -/
structure Report where
  fields : Json.Fields

namespace Report

instance : Inhabited Report := ⟨⟨[]⟩⟩

/-- The value of a field. -/
def get? (report : Report) (key : String) : Option Json := report.fields.get? key

/-- The number in a field; `none` if the field is missing or holds something else. -/
def number? (report : Report) (key : String) : Option Json.Number :=
  (report.get? key).bind Json.number?

/-- A field as a signed number of 64 bits, cut off and clamped; zero if there is no number. -/
def count (report : Report) (key : String) : Int := ((report.number? key).map (·.toInt64)).getD 0

/-- A field as a double; zero if there is no number. -/
def number (report : Report) (key : String) : Binary64 :=
  ((report.number? key).map (·.toFloat)).getD (.zero false)

/-- The number of jobs that wait. -/
def pending (report : Report) : Int := report.count "pending"

/-- The number of jobs in work. -/
def processing (report : Report) : Int := report.count "processing"

/-- The number of jobs that will be tried again. -/
def retryScheduled (report : Report) : Int := report.count "retryScheduled"

/-- Whether no work is left. -/
def isDrained (report : Report) : Bool :=
  report.pending = 0 ∧ report.processing = 0 ∧ report.retryScheduled = 0

end Report

end QueueDrain
