import QueueDrain.Duration
import QueueDrain.Plan.Basic

/-!
What stops a benchmark, in words and as an exit code.
-/

namespace QueueDrain

/-- The requests of one iteration. -/
inductive Phase where
  | reset
  | seed
  | dispatch
  | report
deriving DecidableEq

def Phase.name : Phase → String
  | .reset => "reset"
  | .seed => "seed"
  | .dispatch => "dispatch"
  | .report => "report"

/-- Why a benchmark stops before its end. -/
inductive Error where
  /-- The settings give no plan. -/
  | config (refusal : Plan.Refusal)
  /-- The system under test answered a request with a status that is no success. -/
  | controlRequest (phase : Phase) (method url : String) (status : Nat) (body : String)
  /-- The work was not drained in time. -/
  | pollTimeout (elapsed : Duration)
  /-- The address of a request is malformed. -/
  | invalidUrl (url : String)
  /-- A request could not be sent, or its answer did not arrive. -/
  | request
  /-- A request took longer than it may. -/
  | timeout (limit : Duration)
  /-- The connection broke within the body of an answer. -/
  | bodyRead
  /-- The body of a report is no JSON object. -/
  | invalidReport (url body : String)
  /-- A file could not be written. -/
  | io (reason : String)
deriving DecidableEq, Inhabited

namespace Error

/-- The wording of an error. -/
def message : Error → String
  | .config refusal => refusal.message
  | .controlRequest phase method url status body =>
    phase.name ++ " request failed: " ++ method ++ " " ++ url ++ " status=" ++ toString status ++
      " body=" ++ body
  | .pollTimeout elapsed =>
    "timeout waiting for completion after " ++ toString elapsed.toMillis ++ "ms"
  | .invalidUrl url => "invalid url: " ++ url
  | .request => "http request failed"
  | .timeout limit => "http request timed out after " ++ limit.text
  | .bodyRead => "failed to read response body"
  | .invalidReport url body => "invalid JSON from " ++ url ++ ": " ++ body
  | .io reason => "io error: " ++ reason

/-- The error followed by what caused it, when that is an error of its own. -/
def causes : Error → List String
  | .io reason => [message (.io reason), reason]
  | e => [e.message]

/-- The line that reports the error at the end of a run. -/
def display (e : Error) : String := "error: " ++ ": ".intercalate e.causes

/-- The phase whose request was refused. -/
def phase? : Error → Option Phase
  | .controlRequest phase .. => some phase
  | _ => none

/-- Whether the error arose on the way to the system under test or back. -/
def isTransport : Error → Bool
  | .invalidUrl _ | .request | .timeout _ | .bodyRead => true
  | _ => false

end Error

/-- How a run ends. -/
inductive ExitCode where
  | success
  | invalidInput
  | runtimeError
  | controlRequestFailed
  | pollTimeout
deriving DecidableEq

/-- The number that the operating system is given. -/
def ExitCode.toNat : ExitCode → Nat
  | .success => 0
  | .invalidInput => 30
  | .runtimeError => 40
  | .controlRequestFailed => 41
  | .pollTimeout => 42

/-- The exit code of a run that an error stopped. -/
def Error.exitCode : Error → ExitCode
  | .config _ => .invalidInput
  | .controlRequest .. => .controlRequestFailed
  | .pollTimeout _ => .pollTimeout
  | _ => .runtimeError

end QueueDrain
