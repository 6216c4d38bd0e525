import QueueDrain.Mode

/-!
Benchmark plans: the raw settings (`Inputs`), the validated description of a run (`Plan`), the
reasons for which settings are refused (`Plan.Refusal`), and the iterations of a plan.

All times of a plan are whole milliseconds.
-/

namespace QueueDrain

/-- Settings as they arrive, before any check.  Integers are signed numbers of 64 bits. -/
structure Inputs where
  baseUrl : String := "http://localhost:8070"
  itemsList : Option String := none
  itemsStart : Option Int := none
  itemsEnd : Option Int := none
  itemsStep : Option Int := none
  modes : Option String := none
  runs : Int := 3
  pollIntervalMs : Int := 1000
  timeoutMs : Int := 600000
  samplerIntervalMs : Int := 500
  /-- Overrides the profile's choice whether to sample the heap. -/
  sampleHeap : Option Bool := none

/-- The validated description of one benchmark. -/
structure Plan where
  profile : Profile
  baseUrl : String
  items : List Nat
  modes : List Mode
  runs : Nat
  pollIntervalMs : Nat
  timeoutMs : Nat
  sampleHeap : Bool
  samplerIntervalMs : Nat
  /-- How long a sampler that was told to stop is waited for. -/
  joinGraceMs : Nat
  /-- How long a control or report request may take. -/
  controlTimeoutMs : Nat
  /-- How long a metric request may take. -/
  metricTimeoutMs : Nat
  /-- A pause between two reports takes time. -/
  pollIntervalMs_pos : 0 < pollIntervalMs := by decide
deriving DecidableEq

/-- One repetition of one cell of the matrix; repetitions count from one. -/
structure Iteration where
  items : Nat
  mode : Mode
  run : Nat
deriving DecidableEq

namespace Plan

/-- The sizes that run when neither a list nor a range is given. -/
def defaultItemsList : String := "100,250,500"

/-- The step of a range when none is given. -/
def defaultItemsStep : Int := 100

def defaultJoinGraceMs : Nat := 2000

def defaultControlTimeoutMs : Nat := 30000

def defaultMetricTimeoutMs : Nat := 3000

/-- The settings that have to be positive durations. -/
inductive Interval where
  | poll
  | timeout
  | sampler
deriving DecidableEq

def Interval.variableName : Interval → String
  | .poll => "POLL_INTERVAL_MS"
  | .timeout => "TIMEOUT_MS"
  | .sampler => "MEMORY_POLL_MS"

/-- Why settings give no plan. -/
inductive Refusal where
  /-- The base address, given as it came in, is no web address. -/
  | baseUrl (input : String)
  /-- A part of the list of sizes is no integer. -/
  | item (part : String)
  /-- The list of sizes is empty. -/
  | noItems
  /-- A size is zero or negative. -/
  | nonPositiveItems (n : Int)
  /-- The step of the range is not positive. -/
  | step
  /-- The range ends before it starts. -/
  | range
  /-- The number of repetitions is not positive or has more than 32 bits. -/
  | runs
  /-- An interval is not positive. -/
  | interval (i : Interval)
  /-- A part of the list of modes is no mode. -/
  | unknownMode (part : String)
  /-- A mode that the profile does not offer. -/
  | modeNotAllowed (mode : Mode) (profile : Profile)
  /-- The list of modes is empty. -/
  | noModes
deriving DecidableEq

/-- The wording of a refusal. -/
def Refusal.message : Refusal → String
  | .baseUrl input => "invalid BASE_URL `" ++ input ++ "` (expected an http:// or https:// URL)"
  | .item part => "ITEMS_LIST must be comma-separated integers (got " ++ part ++ ")"
  | .noItems => "ITEMS_LIST must contain at least one value"
  | .nonPositiveItems n => "workload sizes must be positive (got " ++ toString n ++ ")"
  | .step => "ITEMS_STEP must be > 0"
  | .range => "ITEMS_END must be >= ITEMS_START"
  | .runs => "RUNS must be > 0"
  | .interval i => i.variableName ++ " must be > 0"
  | .unknownMode part => "unsupported mode: " ++ part
  | .modeNotAllowed mode profile =>
    "mode `" ++ mode.name ++ "` is not available in the `" ++ profile.name ++ "` profile"
  | .noModes => "MODES must contain at least one mode"

/-! ### Iterations -/

/-- All iterations in order: sizes outermost, then modes, then repetitions. -/
def iterations (plan : Plan) : List Iteration :=
  plan.items.flatMap fun items =>
    plan.modes.flatMap fun mode => (List.range' 1 plan.runs).map fun run => ⟨items, mode, run⟩

/-- The number of iterations. -/
def countIterations (plan : Plan) : Nat := plan.items.length * plan.modes.length * plan.runs

/--
The number of iterations as the log gives it: a product of machine words, of which only the lower 64
bits are left.
-/
def totalIterations (plan : Plan) : UInt64 :=
  .ofNat plan.items.length * .ofNat plan.modes.length * .ofNat plan.runs

/-- The iteration at a position counted from zero, without building the ones before it. -/
def iterationAt? (plan : Plan) (k : Nat) : Option Iteration :=
  if k < plan.countIterations then do
    let items ← plan.items[k / (plan.modes.length * plan.runs)]?
    let mode ← plan.modes[k / plan.runs % plan.modes.length]?
    some ⟨items, mode, k % plan.runs + 1⟩
  else none

end Plan

end QueueDrain
