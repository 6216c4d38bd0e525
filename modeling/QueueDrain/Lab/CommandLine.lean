import QueueDrain.Lab.Basic
import QueueDrain.Text.Integer
import QueueDrain.Url.Socket

/-!
The command line of a lab that is served on its own.

Arguments are taken from left to right, and the first one that is wrong, or that asks for help,
decides.
-/

namespace QueueDrain.Lab

/-- A lab to serve. -/
structure Invocation where
  /-- The socket address to listen on. -/
  bind : String := "127.0.0.1:0"
  options : Options := {}
deriving DecidableEq

/-- What a command line asks for. -/
inductive Startup where
  | serve (invocation : Invocation)
  | help
deriving DecidableEq

/-- What is wrong with a command line. -/
inductive StartupError where
  | missingAddress
  | invalidAddress
  | missingNumber
  | invalidNumber (error : Text.IntegerError)
  | unknownArgument (argument : String)
deriving DecidableEq

/-- The wording of what is wrong with a command line. -/
def StartupError.message : StartupError → String
  | .missingAddress => "--bind requires an address, e.g. 127.0.0.1:0"
  | .invalidAddress => "invalid socket address syntax"
  | .missingNumber => "--drain-per-report requires a number"
  | .invalidNumber error => error.message
  | .unknownArgument argument => "unknown argument: " ++ argument

/-- The line that reports what is wrong. -/
def StartupError.display (e : StartupError) : String := "Error: " ++ e.message

def helpText : String :=
  "drainbench-testserver\n\n" ++ "USAGE:\n" ++
    "  drainbench-testserver [--bind 127.0.0.1:0] [--drain-per-report N] [--no-heap-metrics]\n\n" ++
    "OUTPUT:\n" ++ "  Prints BASE_URL=<url> to stdout once ready."

namespace Invocation

/-- The invocation with a socket address to listen on. -/
def setBind (i : Invocation) (address : String) : Except StartupError Invocation :=
  if Url.isSocketAddress address.toList then .ok { i with bind := address }
  else .error .invalidAddress

/-- The invocation with a number of jobs that a report takes up. -/
def setDrainPerReport (i : Invocation) (number : String) : Except StartupError Invocation :=
  match Text.readNat64 number.toList with
  | .ok n => .ok { i with options.drainPerReport := n }
  | .error e => .error (.invalidNumber e)

/-- Takes the arguments of a command line. -/
def parseFrom (i : Invocation) : List String → Except StartupError Startup
  | [] => .ok (.serve i)
  | ["--bind"] => .error .missingAddress
  | ["--drain-per-report"] => .error .missingNumber
  | "--bind" :: address :: args => do (← i.setBind address).parseFrom args
  | "--drain-per-report" :: number :: args => do (← i.setDrainPerReport number).parseFrom args
  | "--no-heap-metrics" :: args => { i with options.heapMetrics := false }.parseFrom args
  | "-h" :: _ => .ok .help
  | "--help" :: _ => .ok .help
  | argument :: _ => .error (.unknownArgument argument)

end Invocation

/-- What a command line asks for. -/
def Startup.parse (args : List String) : Except StartupError Startup := Invocation.parseFrom {} args

end QueueDrain.Lab
