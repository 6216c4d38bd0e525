import QueueDrain.Plan.Sizes
import QueueDrain.Url.Readers

/-!
From settings to a plan.

The checks run in a fixed order, and the first one that fails names the refusal: base address,
sizes, modes, repetitions, poll interval, timeout, sampler interval.  Nothing but the settings and
the reader of addresses decides.
-/

namespace QueueDrain.Plan

/-- A base address without blanks around it and then without slashes at its end. -/
def trimBaseUrl (raw : String) : String :=
  String.ofList (Text.trimEndWhere (· == '/') (Text.trim raw.toList))

/-- The address that all requests start with. -/
def resolveBaseUrl (urls : Url.Readers) (raw : String) : Except Refusal String :=
  let base := trimBaseUrl raw
  if urls.isWeb base then .ok base else .error (.baseUrl raw)

/-- The sizes: a range if both of its ends are given, else the list. -/
def resolveItems (inputs : Inputs) : Except Refusal (List Nat) :=
  match inputs.itemsStart, inputs.itemsEnd with
  | some start, some stop => itemsRange start stop (inputs.itemsStep.getD defaultItemsStep)
  | _, _ => parseItemsList (inputs.itemsList.getD defaultItemsList)

/-- The modes, all of which the profile has to allow. -/
def resolveModes (profile : Profile) (raw : Option String) : Except Refusal (List Mode) := do
  let modes ←
    match raw with
    | some raw => parseModes raw
    | none => .ok profile.defaultModes
  match modes.find? (!profile.allows ·) with
  | some mode => .error (.modeNotAllowed mode profile)
  | none => .ok modes

/-- The number of repetitions, which has to fit into 32 bits. -/
def resolveRuns (runs : Int) : Except Refusal Nat :=
  if 0 < runs ∧ runs < UInt32.size then .ok runs.toNat else .error .runs

/-- A positive number of milliseconds. -/
def positiveMillis (interval : Interval) (ms : Int) : Except Refusal { n : Nat // 0 < n } :=
  if h : 0 < ms then .ok ⟨ms.toNat, Int.pos_iff_toNat_pos.mp h⟩ else .error (.interval interval)

/-- The plan for a profile and settings, or the first refusal. -/
def resolve (urls : Url.Readers) (profile : Profile) (inputs : Inputs) : Except Refusal Plan := do
  let baseUrl ← resolveBaseUrl urls inputs.baseUrl
  let items ← resolveItems inputs
  let modes ← resolveModes profile inputs.modes
  let runs ← resolveRuns inputs.runs
  let pollIntervalMs ← positiveMillis .poll inputs.pollIntervalMs
  let timeoutMs ← positiveMillis .timeout inputs.timeoutMs
  let samplerIntervalMs ← positiveMillis .sampler inputs.samplerIntervalMs
  .ok {
    profile, baseUrl, items, modes, runs
    pollIntervalMs := pollIntervalMs
    pollIntervalMs_pos := pollIntervalMs.property
    timeoutMs := timeoutMs
    samplerIntervalMs := samplerIntervalMs
    sampleHeap := inputs.sampleHeap.getD profile.samplesHeap
    joinGraceMs := defaultJoinGraceMs
    controlTimeoutMs := defaultControlTimeoutMs
    metricTimeoutMs := defaultMetricTimeoutMs
  }

end QueueDrain.Plan
