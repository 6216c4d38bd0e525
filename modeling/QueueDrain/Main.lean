import QueueDrain.CommandLine.Help
import QueueDrain.Host.Machine
import QueueDrain.Url.Standard

/-!
The command line of the benchmark.
-/

namespace QueueDrain

/-- The values of the variables that settings can come from. -/
def readEnvironment : IO (List (String × String)) :=
  CommandLine.Setting.all.filterMapM fun setting => do
    return (← IO.getEnv setting.variableName).map fun value => (setting.variableName, value)

/-- Shows what there is to show in place of a run. -/
def showUsage (usage : CommandLine.Usage) : IO Unit := do
  let stream ← if usage.isRequest then IO.getStdout else IO.getStderr
  stream.putStrLn usage.text

def runCommandLine (args : List String) : IO ExitCode := do
  let environment ← readEnvironment
  match CommandLine.parse args fun name => environment.lookup name with
  | .error usage =>
    showUsage usage
    return usage.exitCode
  | .ok invocation =>
    let outcome ← (Machine.host (← IO.mkRef [])).run Url.standard invocation
    if let .error failure := outcome then
      (← IO.getStderr).putStrLn failure.display
    return exitCodeOf outcome

end QueueDrain

/-- Runs the command line that the program was started with. -/
def main (args : List String) : IO UInt32 := do
  return (← QueueDrain.runCommandLine args).toNat.toUInt32
