import QueueDrain.Client
import QueueDrain.CommandLine.Parse
import QueueDrain.Csv.Detail
import QueueDrain.Csv.Summary
import QueueDrain.Output.Paths
import QueueDrain.Plan.Resolve

/-!
A whole run: from an invocation to the two tables on disk.

Nothing is touched until the settings have given a plan.  The detail table is written as the run
goes, one row for each finished iteration, so that a failure leaves the rows before it; the summary
table is written only after the last iteration.
-/

namespace QueueDrain

/-- How grave a message of the log is. -/
inductive Level where
  | info
  | warn
deriving DecidableEq

def Level.name : Level → String
  | .info => "INFO"
  | .warn => "WARN"

/-- A message of the log, with named details. -/
structure LogLine where
  level : Level
  message : String
  details : List (String × String)
deriving DecidableEq

def LogLine.text (line : LogLine) : String :=
  " ".intercalate
    (line.level.name :: line.message :: line.details.map fun (name, value) => name ++ "=" ++ value)

/-- Why a whole run ends before its end. -/
inductive Failure where
  | bench (error : Error)
  /-- Something could not be done to a file. -/
  | file (action reason : String)

namespace Failure

/-- The line that reports a failure at the end of a run. -/
def display : Failure → String
  | .bench error => error.display
  | .file action reason => "error: " ++ action ++ ": " ++ reason

/-- The exit code of a run that a failure stopped. -/
def exitCode : Failure → ExitCode
  | .bench error => error.exitCode
  | .file .. => .runtimeError

end Failure

/-- What a whole run needs from its surroundings.  What fails says why in words. -/
structure Host (m : Type → Type) where
  /-- The benchmark of a client; its announcements and results go nowhere. -/
  bench (client : Client) : Bench m
  /-- Makes a directory and those it is in, if they are not there. -/
  makeDirectories (path : String) : m (Except String Unit)
  /-- The paths of two tables in a directory, for which there are no files. -/
  freshPaths (dir : String) (profile : Profile) : m Output.Paths
  /-- Writes a file that was not there. -/
  write (path content : String) : m (Except String Unit)
  /-- Writes to the end of a file. -/
  append (path content : String) : m (Except String Unit)
  print (line : String) : m Unit
  log (line : LogLine) : m Unit

namespace Host

def bracketed (items : List String) : String := "[" ++ ", ".intercalate items ++ "]"

/-- What the log says when a plan begins. -/
def startLine (plan : Plan) : LogLine where
  level := .info
  message := "starting " ++ toString plan.totalIterations ++ " iterations"
  details :=
    [("profile", plan.profile.name), ("base_url", plan.baseUrl),
      ("items", bracketed (plan.items.map toString)),
      ("modes", bracketed (plan.modes.map fun mode => "\"" ++ mode.name ++ "\"")),
      ("runs", toString plan.runs), ("sample_heap", toString plan.sampleHeap)]

/-- What the log says when the iteration at a position begins. -/
def iterationLine (plan : Plan) (position : Nat) (iteration : Iteration) : LogLine where
  level := .info
  message := "iteration " ++ toString (position + 1) ++ "/" ++ toString plan.totalIterations
  details :=
    [("items", toString iteration.items), ("mode", iteration.mode.name),
      ("run", toString iteration.run ++ "/" ++ toString plan.runs)]

/-- What the log says when a run is stopped. -/
def abortLine (paths : Output.Paths) : LogLine where
  level := .warn
  message := "run aborted; completed rows kept in the detail file"
  details := [("path", paths.detail)]

variable {m : Type → Type} [Monad m] (host : Host m) (urls : Url.Readers)

/-- The benchmark of a plan, whose results become rows of the detail table. -/
def recorder (plan : Plan) (paths : Output.Paths) : Bench m :=
  { host.bench (Client.ofPlan urls plan) with
    announce := fun position iteration => host.log (iterationLine plan position iteration)
    record := fun result => do
      let row := Csv.write [Detail.row plan.profile plan.sampleHeap result]
      match ← host.append paths.detail row with
      | .ok () => return .ok ()
      | .error reason => return .error (.io reason) }

/-- Runs a plan whose detail table has been begun, and writes the summary table. -/
def runPlan (plan : Plan) (paths : Output.Paths) : m (Except Failure Unit) := do
  host.log (startLine plan)
  match ← (host.recorder urls plan paths).runMatrix plan with
  | .error e =>
    host.log (abortLine paths)
    return .error (.bench e)
  | .ok results =>
    match ← host.write paths.summary (SummaryRow.csv (summarizeRuns results)) with
    | .error reason => return .error (.file ("failed to write " ++ paths.summary) reason)
    | .ok () =>
      host.print ("detail: " ++ paths.detail)
      host.print ("summary: " ++ paths.summary)
      return .ok ()

/-- Makes the place for the tables of a plan, and runs it. -/
def prepare (plan : Plan) (outputDir : String) : m (Except Failure Unit) := do
  match ← host.makeDirectories outputDir with
  | .error reason => return .error (.file ("failed to create output dir: " ++ outputDir) reason)
  | .ok () =>
    let paths ← host.freshPaths outputDir plan.profile
    match ← host.write paths.detail (Detail.csv plan.profile plan.sampleHeap []) with
    | .error reason => return .error (.file ("failed to create " ++ paths.detail) reason)
    | .ok () => host.runPlan urls plan paths

def run (invocation : CommandLine.Invocation) : m (Except Failure Unit) :=
  match Plan.resolve urls invocation.profile invocation.inputs with
  | .error refusal => return .error (.bench (.config refusal))
  | .ok plan => host.prepare urls plan invocation.outputDir

end Host

/-- How a run ended, as an exit code. -/
def exitCodeOf : Except Failure Unit → ExitCode
  | .ok () => .success
  | .error failure => failure.exitCode

/-- The exit code of a command line that is not run. -/
def CommandLine.Usage.exitCode (usage : CommandLine.Usage) : ExitCode :=
  if usage.isRequest then .success else .invalidInput

end QueueDrain
