import QueueDrain.CommandLine.Setting

/-!
What is shown when a command line is not run: help, the version, or what is wrong.
-/

namespace QueueDrain.CommandLine

/-- The name and the version of the program. -/
def versionText : String := "drainbench 0.1.0"

def Setting.description : Setting → String
  | .baseUrl => "Base URL of the lab service"
  | .itemsList => "Comma-separated workload sizes (ignored when ITEMS_START and ITEMS_END are set)"
  | .itemsStart => "First workload size of an inclusive range"
  | .itemsEnd => "Last workload size of an inclusive range"
  | .itemsStep => "Range step (default 100)"
  | .modes => "Comma-separated dispatch modes (async, async-all, sync, sync-all)"
  | .runs => "Repetitions per (size, mode)"
  | .pollIntervalMs => "Delay between status report fetches"
  | .timeoutMs => "Give up waiting for a drain after this long"
  | .memoryPollMs => "Delay between heap sampling ticks"
  | .outputDir => "Directory the CSV files are written to (created if missing)"

def Setting.help (setting : Setting) : List String :=
  ["      --" ++ setting.flag ++ " <" ++ setting.variableName ++ ">",
    "          " ++ setting.description ++ " [env: " ++ setting.variableName ++ "=]"]

def helpText : String :=
  "\n".intercalate
    (["Drain-time and heap benchmarks for a job-queue lab service", "",
        "Usage: drainbench <flow|memory> [OPTIONS]", "", "Commands:",
        "  flow    Compare async vs sync drain time",
        "  memory  Compare heap usage across all four dispatch modes", "", "Options:"] ++
      Setting.all.flatMap Setting.help ++
      ["      --sampler", "          Sample heap metrics even for profiles that do not by default",
        "      --no-sampler", "          Disable heap sampling", "  -h, --help", "  -V, --version"])

/-- What is wrong with a command line. -/
def Usage.reason : Usage → String
  | .unknownArgument => "unexpected argument"
  | .valueValidation => "invalid value for an option"
  | .invalidValue => "a value is required for an option but none was supplied"
  | .argumentConflict => "an option cannot be used multiple times"
  | .invalidSubcommand => "unrecognized subcommand"
  | .tooManyValues => "unexpected value for an option"
  | .displayHelp | .displayVersion | .helpOnMissing => "a subcommand is required"

/-- What is shown in place of a run. -/
def Usage.text : Usage → String
  | .displayHelp | .helpOnMissing => helpText
  | .displayVersion => versionText
  | usage => "error: " ++ usage.reason ++ "\n\nFor more information, try '--help'."

end QueueDrain.CommandLine
