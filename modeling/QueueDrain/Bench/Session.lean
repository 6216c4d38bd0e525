import QueueDrain.Bench.Basic
import QueueDrain.Heap.Sampler

/-!
A benchmark on a virtual clock.

A `Target` is a system under test as a transition system: what it answers to a request, how long the
answer takes, and what the request changes.  A `Session` is one run against a target: the clock, the
state of the target, the samplers in the background, and everything that has happened so far.
`Session.bench` runs a benchmark in a session.

Design notes:
* Only waiting moves the clock.  While the benchmark waits, every sampler runs on its own.
* A request reaches the target when it starts, and its answer arrives after its delay.
* Nothing in a session forbids two samplers at once; that there is never more than one is a property
  of the benchmark.  A sampler that has been waited for stays in the session, and would go on asking
  if it were still live.
-/

namespace QueueDrain

/-- An answer, and how long it takes. -/
structure Reply (α : Type) where
  delayMs : Nat
  outcome : Except Error α

/-- A system under test with a state: its answer to each request that is made at a time. -/
structure Target (σ : Type) where
  command (c : Command) (time : Nat) (state : σ) : Reply Unit × σ
  report (time : Nat) (state : σ) : Reply Report × σ
  metric : Heap.Source σ

/-- What can happen in a session. -/
inductive Event where
  /-- A command is sent. -/
  | command (c : Command)
  /-- A report is asked for. -/
  | report
  /-- The answer to the command or report that was sent last has arrived. -/
  | answer (phase : Phase) (success : Bool)
  | samplerStart
  /-- A sampler asks for a metric. -/
  | fetch (metric : Heap.Metric)
  /-- The wait for a sampler is over. -/
  | samplerEnd
deriving DecidableEq

/-- One run of a benchmark. -/
structure Session (σ : Type) where
  /-- The time since the start, in milliseconds. -/
  clock : Nat := 0
  /-- The state of the target. -/
  target : σ
  /-- All samplers, the one started last first. -/
  samplers : List Heap.Sampler := []
  /-- All events with their times, the last one first. -/
  events : List (Nat × Event) := []
  /-- The results that have been kept, the last one first. -/
  recorded : List RunResult := []

namespace Target

variable {σ : Type}

/-- The metrics of a target as a source of samples, which takes note of each request. -/
def source (target : Target σ) : Heap.Source (σ × List (Nat × Event)) :=
  fun metric time (state, events) =>
    let (reply, state) := target.metric metric time state
    (reply, (state, (time, .fetch metric) :: events))

end Target

namespace Session

variable {σ : Type}

/-- Takes note of an event. -/
def note (event : Event) (s : Session σ) : Session σ :=
  { s with events := (s.clock, event) :: s.events }

/-- Samplers after their owner has waited until a time. -/
def advanceAll (target : Target σ) (limit : Nat) :
    List Heap.Sampler → σ × List (Nat × Event) → List Heap.Sampler × (σ × List (Nat × Event))
  | [], state => ([], state)
  | sampler :: samplers, state =>
    let (sampler, state) := sampler.advance target.source limit state
    let (samplers, state) := advanceAll target limit samplers state
    (sampler :: samplers, state)

/-- The session at a later time. -/
def waitUntil (target : Target σ) (time : Nat) (s : Session σ) : Session σ :=
  let (samplers, state, events) := advanceAll target time s.samplers (s.target, s.events)
  { s with clock := time, target := state, samplers := samplers, events := events }

/-- The answer to a request, after the session has waited for it. -/
def await {α : Type} (target : Target σ) (phase : Phase) (reply : Reply α) (s : Session σ) :
    Except Error α × Session σ :=
  let s := s.waitUntil target (s.clock + reply.delayMs)
  (reply.outcome, s.note (.answer phase reply.outcome.isOk))

/-- Sends a command and waits for the answer. -/
def command (target : Target σ) (c : Command) (s : Session σ) : Except Error Unit × Session σ :=
  let (reply, state) := target.command c s.clock s.target
  { s.note (.command c) with target := state }.await target c.phase reply

/-- Asks for a report and waits for it. -/
def report (target : Target σ) (s : Session σ) : Except Error Report × Session σ :=
  let (reply, state) := target.report s.clock s.target
  { s.note .report with target := state }.await target .report reply

def startSampler (intervalMs : Nat) (s : Session σ) : Session σ :=
  let sampler := Heap.Sampler.start intervalMs s.clock
  { s.note .samplerStart with samplers := sampler :: s.samplers }

/-- Ends the sampler that was started last, and gives its statistics. -/
def finishSampler (target : Target σ) (graceMs : Nat) (s : Session σ) : Heap.Summary × Session σ :=
  match s.samplers with
  | [] => ({}, s)
  | sampler :: samplers =>
    let (join, state, events) :=
      (sampler.stop s.clock).join target.source s.clock graceMs (s.target, s.events)
    let s := { s with target := state, samplers := join.sampler :: samplers, events := events }
    (join.sampler.stats, (s.waitUntil target join.time).note .samplerEnd)

/--
A benchmark in a session.  The place for results is full from some point on: `refusal n` tells why
the n-th result, counted from zero, cannot be kept.
-/
def bench (target : Target σ) (refusal : Nat → Option String) : Bench (StateM (Session σ)) where
  now := fun s => (.ofMillis s.clock, s)
  sleep ms := fun s => ((), s.waitUntil target (s.clock + ms))
  command c := fun s => s.command target c
  report := fun s => s.report target
  startSampler intervalMs := fun s => ((), s.startSampler intervalMs)
  finishSampler graceMs := fun s => s.finishSampler target graceMs
  announce _ _ := fun s => ((), s)
  record result := fun s =>
    match refusal s.recorded.length with
    | some reason => (.error (.io reason), s)
    | none => (.ok (), { s with recorded := result :: s.recorded })

end Session

end QueueDrain
