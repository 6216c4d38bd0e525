import QueueDrain.Plan.Basic
import QueueDrain.Text.Integer

/-!
The settings of a benchmark on the command line.

Each of the eleven settings has a flag, an environment variable and a kind of value.  `Assignment`
binds settings to values; `Assignment.inputs` reads a plan's inputs out of it, with the default of
every setting that is not bound.
-/

namespace QueueDrain.CommandLine

/-- The settings that take a value. -/
inductive Setting where
  | baseUrl
  | itemsList
  | itemsStart
  | itemsEnd
  | itemsStep
  | modes
  | runs
  | pollIntervalMs
  | timeoutMs
  | memoryPollMs
  | outputDir
deriving DecidableEq

/-- What the value of a setting is. -/
inductive Kind where
  | text
  /-- A signed number of 64 bits. -/
  | integer
  /-- A text that is not empty. -/
  | path
deriving DecidableEq

namespace Setting

/-- All settings, in the order in which their variables are read. -/
def all : List Setting :=
  [.baseUrl, .itemsList, .itemsStart, .itemsEnd, .itemsStep, .modes, .runs, .pollIntervalMs,
    .timeoutMs, .memoryPollMs, .outputDir]

/-- The flag of a setting, without the two hyphens before it. -/
def flag : Setting → String
  | .baseUrl => "base-url"
  | .itemsList => "items-list"
  | .itemsStart => "items-start"
  | .itemsEnd => "items-end"
  | .itemsStep => "items-step"
  | .modes => "modes"
  | .runs => "runs"
  | .pollIntervalMs => "poll-interval-ms"
  | .timeoutMs => "timeout-ms"
  | .memoryPollMs => "memory-poll-ms"
  | .outputDir => "output-dir"

def variableName : Setting → String
  | .baseUrl => "BASE_URL"
  | .itemsList => "ITEMS_LIST"
  | .itemsStart => "ITEMS_START"
  | .itemsEnd => "ITEMS_END"
  | .itemsStep => "ITEMS_STEP"
  | .modes => "MODES"
  | .runs => "RUNS"
  | .pollIntervalMs => "POLL_INTERVAL_MS"
  | .timeoutMs => "TIMEOUT_MS"
  | .memoryPollMs => "MEMORY_POLL_MS"
  | .outputDir => "OUTPUT_DIR"

/-- The kind of a setting's value. -/
def kind : Setting → Kind
  | .baseUrl | .itemsList | .modes => .text
  | .outputDir => .path
  | _ => .integer

def ofFlag? (flag : String) : Option Setting := all.find? (·.flag == flag)

end Setting

/-- Why a command line is not run.  Help and version are among the reasons. -/
inductive Usage where
  | unknownArgument
  /-- A value that is not of its setting's kind. -/
  | valueValidation
  /-- A setting without a value, or an empty path. -/
  | invalidValue
  /-- A setting or a flag that is given twice. -/
  | argumentConflict
  | invalidSubcommand
  /-- A value for a flag that takes none. -/
  | tooManyValues
  | displayHelp
  | displayVersion
  /-- Help that is shown because nothing is asked for. -/
  | helpOnMissing
deriving DecidableEq

/-- Whether the command line asked for what it got. -/
def Usage.isRequest : Usage → Bool
  | .displayHelp | .displayVersion => true
  | _ => false

inductive Value where
  | text (s : String)
  | integer (n : Int)
deriving DecidableEq

namespace Value

def read (kind : Kind) (s : String) : Except Usage Value :=
  match kind with
  | .text => .ok (.text s)
  | .path => if s = "" then .error .invalidValue else .ok (.text s)
  | .integer =>
    match Text.readInt64 s.toList with
    | .ok n => .ok (.integer n)
    | .error _ => .error .valueValidation

def text? : Value → Option String
  | .text s => some s
  | .integer _ => none

/-- The number of a value. -/
def integer? : Value → Option Int
  | .integer n => some n
  | .text _ => none

end Value

/-- Values of settings, each setting at most once. -/
abbrev Assignment := List (Setting × Value)

namespace Assignment

def get? (assignment : Assignment) (setting : Setting) : Option Value := assignment.lookup setting

def text? (assignment : Assignment) (setting : Setting) : Option String :=
  (assignment.get? setting).bind Value.text?

/-- The number of a setting. -/
def integer? (assignment : Assignment) (setting : Setting) : Option Int :=
  (assignment.get? setting).bind Value.integer?

/-- The inputs of a plan. -/
def inputs (assignment : Assignment) (sampleHeap : Option Bool) : Inputs :=
  let default : Inputs := {}
  { baseUrl := (assignment.text? .baseUrl).getD default.baseUrl
    itemsList := assignment.text? .itemsList
    itemsStart := assignment.integer? .itemsStart
    itemsEnd := assignment.integer? .itemsEnd
    itemsStep := assignment.integer? .itemsStep
    modes := assignment.text? .modes
    runs := (assignment.integer? .runs).getD default.runs
    pollIntervalMs := (assignment.integer? .pollIntervalMs).getD default.pollIntervalMs
    timeoutMs := (assignment.integer? .timeoutMs).getD default.timeoutMs
    samplerIntervalMs := (assignment.integer? .memoryPollMs).getD default.samplerIntervalMs
    sampleHeap := sampleHeap }

/-- The directory of the result files. -/
def outputDir (assignment : Assignment) : String := (assignment.text? .outputDir).getD "results"

end Assignment

end QueueDrain.CommandLine
