import QueueDrain.Host.Basic
import QueueDrain.Http.Connection
import Std.Time

/-!
A whole run on this machine: its clock, its network, its file system and its streams.
-/

namespace QueueDrain.Machine

/-- The wording of an error of the operating system, with its number. -/
def reason : IO.Error → String
  | .alreadyExists _ code details | .interrupted _ code details | .noFileOrDirectory _ code details
  | .invalidArgument _ code details | .permissionDenied _ code details
  | .resourceExhausted _ code details | .inappropriateType _ code details
  | .noSuchThing _ code details | .otherError code details | .resourceBusy code details
  | .resourceVanished code details | .unsupportedOperation code details
  | .hardwareFault code details | .unsatisfiedConstraints code details
  | .illegalOperation code details | .protocolError code details | .timeExpired code details =>
    details ++ " (os error " ++ toString code.toNat ++ ")"
  | .unexpectedEof => "unexpected end of file"
  | .userError message => message

/-- Some work on files, with the reason if it fails. -/
def attempt (work : IO Unit) : IO (Except String Unit) := do
  try
    work
    return .ok ()
  catch e => return .error (reason e)

/-- The longest time to wait without a break, in milliseconds. -/
def longestPause : Nat := 1000000

/-- Waits for some milliseconds. -/
def pause (ms : Nat) : IO Unit := do
  for _ in [0:ms / longestPause] do
    IO.sleep longestPause.toUInt32
  IO.sleep (ms % longestPause).toUInt32

/-! ### The sampler -/

/-- A sampler in the background. -/
structure Sampler where
  /-- Whether it was asked to stop. -/
  stopping : IO.Ref Bool
  task : Task (Except IO.Error Heap.Series)

/-- The time between two looks at something that may have changed. -/
def glanceMs : Nat := 5

/-- Waits for some milliseconds, or until the sampler is asked to stop. -/
def pauseUnless (stopping : IO.Ref Bool) (ms : Nat) : IO Unit := do
  for _ in [0:ms / glanceMs] do
    if ← stopping.get then return
    IO.sleep glanceMs.toUInt32
  unless ← stopping.get do
    IO.sleep (ms % glanceMs).toUInt32

/-- Samples each metric once. -/
def tick (client : Client) (series : Heap.Series) : IO Heap.Series :=
  Heap.Metric.all.foldlM
    (fun series metric => do
      match ← client.metric Http.exchange metric with
      | .ok (some x) => return series.push metric x
      | _ => return series)
    series

/-- Samples until it is asked to stop. -/
partial def sample (client : Client) (intervalMs : Nat) (stopping : IO.Ref Bool)
    (series : Heap.Series) : IO Heap.Series := do
  let series ← tick client series
  if ← stopping.get then return series
  pauseUnless stopping intervalMs
  if ← stopping.get then return series
  sample client intervalMs stopping series

def startSampler (client : Client) (intervalMs : Nat) : IO Sampler := do
  let stopping ← IO.mkRef false
  let task ← IO.asTask (sample client intervalMs stopping {}) Task.Priority.dedicated
  return { stopping, task }

/-- Waits until a sampler has ended, but not longer than some milliseconds. -/
def waitFor (sampler : Sampler) (graceMs : Nat) : IO Unit := do
  for _ in [0:graceMs / glanceMs] do
    if ← IO.hasFinished sampler.task then return
    IO.sleep glanceMs.toUInt32

/-- Ends a sampler and gives its statistics. -/
def finishSampler (sampler : Sampler) (graceMs : Nat) : IO Heap.Summary := do
  sampler.stopping.set true
  waitFor sampler graceMs
  if ← IO.hasFinished sampler.task then
    match sampler.task.get with
    | .ok series => return series.summarize
    | .error _ => return {}
  else
    IO.cancel sampler.task
    return {}

/-! ### The surroundings -/

/-- The benchmark of a client over the network, with the samplers that are running. -/
def bench (samplers : IO.Ref (List Sampler)) (client : Client) : Bench IO where
  now := do return ⟨← IO.monoNanosNow⟩
  sleep := pause
  command c := client.command Http.exchange c
  report := client.report Http.exchange
  startSampler intervalMs := do
    let sampler ← startSampler client intervalMs
    samplers.modify (sampler :: ·)
  finishSampler graceMs := do
    match ← samplers.get with
    | [] => return {}
    | sampler :: rest =>
      samplers.set rest
      finishSampler sampler graceMs
  announce _ _ := return ()
  record _ := return .ok ()

/-- Makes a directory and those it is in.  What cannot be made is named by the whole path. -/
def makeDirectories (path : String) : IO (Except String Unit) := do
  match ← attempt (IO.FS.createDirAll path) with
  | .ok () => return .ok ()
  | .error _ => attempt (IO.FS.createDir path)

/-- Whether there is something to be read at a path. -/
def isReadable (path : String) : IO Bool := do
  try
    let _ ← IO.FS.Handle.mk path .read
    return true
  catch _ => return false

/--
The paths of two tables with the first time stamp from some stamp on for which there are none.
-/
partial def freshPaths (dir : String) (profile : Profile) (stamp : Nat) : IO Output.Paths := do
  let paths := Output.Paths.at dir profile stamp
  if (← isReadable paths.detail) || (← isReadable paths.summary) then
    freshPaths dir profile (stamp + 1)
  else return paths

/-- The milliseconds since the start of the epoch. -/
def epochMillis : IO Nat := do
  return (← Std.Time.Timestamp.now).toMillisecondsSinceUnixEpoch.val.toNat

/-- Writes to the end of a file. -/
def append (path content : String) : IO Unit := do
  let handle ← IO.FS.Handle.mk path .append
  handle.putStr content
  handle.flush

/-- The surroundings of a run on this machine. -/
def host (samplers : IO.Ref (List Sampler)) : Host IO where
  bench := bench samplers
  makeDirectories := makeDirectories
  freshPaths dir profile := do freshPaths dir profile (← epochMillis)
  write path content := attempt (IO.FS.writeFile path content)
  append path content := attempt (append path content)
  print line := do (← IO.getStdout).putStrLn line
  log line := do (← IO.getStderr).putStrLn line.text

end QueueDrain.Machine
