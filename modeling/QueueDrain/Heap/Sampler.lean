import QueueDrain.Heap.Summary

/-!
The background sampler on a virtual clock.

The sampling loop (`Loop`) is a task that asks for the three metrics one after the other, pauses,
and starts over; a request to stop lets it finish the tick it is in.  `Loop.fire` is its next event
and `Loop.advance` all of its events up to some time.  `Sampler` is the owner's end of the task: it
starts it, asks it to stop, and waits for it for a limited time.

Design notes:
* The loop has a deadline for its next event, so whoever waits until some time advances the loop to
  that time.  A new loop has asked for nothing yet; its first request is made when its owner waits.
* A source keeps a state of its own, which every request may change, so that the owner can act on
  the same state between the requests.
* An answer is fixed when it is asked for, and arrives after its delay.  A fault of the source ends
  the loop without a series; a missing value only leaves out one sample.
* A pause takes at least a millisecond, as it does in every plan; that is why advancing ends.
-/

namespace QueueDrain.Heap

/-- What a request for a metric brings. -/
inductive Sample where
  | value (x : Binary64)
  /-- No value this time. -/
  | missing
  /-- A fault that ends the task that asked. -/
  | crash
deriving DecidableEq

/-- An answer to a request for a metric, and how long it takes. -/
structure SampleReply where
  delayMs : Nat
  sample : Sample
deriving DecidableEq

/--
A source of samples with a state: the answer to a request for a metric that is made at a time.
-/
abbrev Source (σ : Type) := Metric → (time : Nat) → σ → SampleReply × σ

/-- What a sampling loop is doing. -/
inductive Activity where
  /-- It was started, and has asked for nothing yet. -/
  | ready (due : Nat)
  /-- It waits for an answer that arrives at `due`. -/
  | fetching (metric : Metric) (sample : Sample) (due : Nat)
  | pausing (due : Nat)
  | finished (time : Nat)
  | crashed (time : Nat)
  | aborted
deriving DecidableEq

/-- A sampling loop. -/
structure Loop where
  /-- The pause between two ticks, in milliseconds. -/
  interval : Nat
  activity : Activity
  /-- Whether it was asked to stop. -/
  stopping : Bool := false
  /-- The samples so far. -/
  series : Series := {}
deriving DecidableEq

namespace Loop

def start (interval time : Nat) : Loop where
  interval := interval
  activity := .ready time

/-- The time of the next event, while the loop is live. -/
def due? (loop : Loop) : Option Nat :=
  match loop.activity with
  | .ready due => some due
  | .fetching _ _ due => some due
  | .pausing due => some due
  | _ => none

/-- Whether the loop can still ask for something. -/
def isLive (loop : Loop) : Bool := loop.due?.isSome

variable {σ : Type}

def ask (source : Source σ) (metric : Metric) (time : Nat) (loop : Loop) (state : σ) : Loop × σ :=
  let (reply, state) := source metric time state
  ({ loop with activity := .fetching metric reply.sample (time + reply.delayMs) }, state)

/-- The loop after a tick that ended at a time. -/
def endTick (time : Nat) (loop : Loop) : Loop :=
  { loop with
    activity := if loop.stopping then .finished time else .pausing (time + max 1 loop.interval) }

/-- What follows an answer, after its sample has been kept. -/
def next (source : Source σ) (metric : Metric) (time : Nat) (loop : Loop) (state : σ) : Loop × σ :=
  match metric with
  | .used => loop.ask source .max time state
  | .max => loop.ask source .committed time state
  | .committed => (loop.endTick time, state)

/-- The next event of the loop; a loop that is not live has none. -/
def fire (source : Source σ) (loop : Loop) (state : σ) : Loop × σ :=
  match loop.activity with
  | .ready due => loop.ask source .used due state
  | .pausing due => loop.ask source .used due state
  | .fetching metric (.value x) due =>
    { loop with series := loop.series.push metric x }.next source metric due state
  | .fetching metric .missing due => loop.next source metric due state
  | .fetching _ .crash due => ({ loop with activity := .crashed due }, state)
  | _ => (loop, state)

/-- How many events the loop can have before its time moves on. -/
def rank (loop : Loop) : Nat :=
  match loop.activity with
  | .ready _ => 4
  | .pausing _ => 4
  | .fetching .used _ _ => 3
  | .fetching .max _ _ => 2
  | .fetching .committed _ _ => 1
  | _ => 0

/-- A bound on the number of events up to a time. -/
def measure (limit : Nat) (loop : Loop) : Nat :=
  match loop.due? with
  | none => 0
  | some due => (limit + 1 - due) * 5 + loop.rank + 1

theorem measure_fire_lt (source : Source σ) (limit : Nat) (loop : Loop) (state : σ)
    {due : Nat} (hdue : loop.due? = some due) (hle : due ≤ limit) :
    (loop.fire source state).1.measure limit < loop.measure limit := by
  obtain ⟨interval, activity, stopping, series⟩ := loop
  rcases activity with d | ⟨m, s, d⟩ | d | d | d | _ <;>
    simp only [due?, Option.some.injEq, reduceCtorEq] at hdue
  · subst hdue
    simp only [measure, due?, rank, fire, ask]
    omega
  · subst hdue
    rcases s with x | _ | _ <;> rcases m with _ | _ | _ <;> cases stopping <;>
      simp only [measure, due?, rank, fire, next, ask, endTick, Bool.false_eq_true, if_true,
        if_false] <;>
      omega
  · subst hdue
    simp only [measure, due?, rank, fire, ask]
    omega

/-- The loop after all its events up to a time. -/
def advance (source : Source σ) (limit : Nat) (loop : Loop) (state : σ) : Loop × σ :=
  match _hdue : loop.due? with
  | none => (loop, state)
  | some due =>
    if _hle : due ≤ limit then
      (loop.fire source state).1.advance source limit (loop.fire source state).2
    else (loop, state)
termination_by loop.measure limit
decreasing_by exact measure_fire_lt source limit loop state _hdue _hle

/-- Asks the loop to stop: at once if it pauses, else at the end of its tick. -/
def stop (time : Nat) (loop : Loop) : Loop :=
  match loop.activity with
  | .pausing _ => { loop with stopping := true, activity := .finished time }
  | _ => { loop with stopping := true }

/-- Ends the loop wherever it is; its samples are lost. -/
def abort (loop : Loop) : Loop := if loop.isLive then { loop with activity := .aborted } else loop

end Loop

/-- A sampler: its loop, and what became of it once it was waited for. -/
structure Sampler where
  loop : Loop
  /-- The series of the loop after the first wait for it; `some none` if there is none. -/
  outcome : Option (Option Series) := none
deriving DecidableEq

namespace Sampler

variable {σ : Type}

def start (interval time : Nat) : Sampler where
  loop := Loop.start interval time

/-- The sampler after its owner has waited until a time. -/
def advance (source : Source σ) (limit : Nat) (sampler : Sampler) (state : σ) : Sampler × σ :=
  let (loop, state) := sampler.loop.advance source limit state
  ({ sampler with loop := loop }, state)

/-- Asks the loop to stop. -/
def stop (time : Nat) (sampler : Sampler) : Sampler :=
  { sampler with loop := sampler.loop.stop time }

/-- What a wait for the loop brought. -/
structure Join where
  /-- Whether the samples could be kept. -/
  joined : Bool
  /-- When the wait was over. -/
  time : Nat
  sampler : Sampler

/--
Waits for the loop for at most `grace`, and abandons it after that.  Only the first wait takes time;
the later ones repeat its answer.
-/
def join (source : Source σ) (time grace : Nat) (sampler : Sampler) (state : σ) : Join × σ :=
  match sampler.outcome with
  | some series => (⟨series.isSome, time, sampler⟩, state)
  | none =>
    let (loop, state) := sampler.loop.advance source (time + grace) state
    match loop.activity with
    | .finished ended => (⟨true, max time ended, ⟨loop, some (some loop.series)⟩⟩, state)
    | .crashed ended => (⟨false, max time ended, ⟨loop, some none⟩⟩, state)
    | _ => (⟨false, time + grace, ⟨loop.abort, some none⟩⟩, state)

/-- The statistics of the samples that were kept. -/
def stats (sampler : Sampler) : Summary :=
  match sampler.outcome with
  | some (some series) => series.summarize
  | _ => {}

/-- Gives the sampler up. -/
def drop (sampler : Sampler) : Sampler := { sampler with loop := sampler.loop.abort }

/-! ### Histories -/

/-- What the owner of a sampler can do. -/
inductive Action where
  | sleep (ms : Nat)
  | stop
  | join (graceMs : Nat)
  | stats
deriving DecidableEq

/-- What an action shows. -/
structure Observation (σ : Type) where
  /-- The time after the action. -/
  time : Nat
  /-- The state of the source after the action. -/
  state : σ
  /-- The answer of a wait for the loop. -/
  joined : Option Bool := none
  /-- The statistics, if they were asked for. -/
  stats : Option Summary := none

/-- One action, with what it shows. -/
def act (source : Source σ) (time : Nat) (sampler : Sampler) (state : σ) :
    Action → Observation σ × Sampler
  | .sleep ms =>
    let (sampler, state) := sampler.advance source (time + ms) state
    ({ time := time + ms, state := state }, sampler)
  | .stop => ({ time := time, state := state }, sampler.stop time)
  | .join graceMs =>
    let (join, state) := sampler.join source time graceMs state
    ({ time := join.time, state := state, joined := some join.joined }, join.sampler)
  | .stats => ({ time := time, state := state, stats := some sampler.stats }, sampler)

/-- Actions one after the other, with what they show, and the sampler after them. -/
def history (source : Source σ) : (time : Nat) → Sampler → σ → List Action →
    List (Observation σ) × Sampler
  | _, sampler, _, [] => ([], sampler)
  | time, sampler, state, action :: actions =>
    let (seen, sampler) := sampler.act source time state action
    let (more, sampler) := history source seen.time sampler seen.state actions
    (seen :: more, sampler)

end Sampler

/-! ### Scripted sources -/

/-- How often each metric has been asked for. -/
structure Counts where
  used : Nat := 0
  max : Nat := 0
  committed : Nat := 0
deriving DecidableEq

namespace Counts

/-- How often a metric has been asked for. -/
def get (counts : Counts) : Metric → Nat
  | .used => counts.used
  | .max => counts.max
  | .committed => counts.committed

/-- The counts after one request more. -/
def add (counts : Counts) : Metric → Counts
  | .used => { counts with used := counts.used + 1 }
  | .max => { counts with max := counts.max + 1 }
  | .committed => { counts with committed := counts.committed + 1 }

end Counts

/-- The source that answers the n-th request for a metric, counted from zero, as it is told to. -/
def Source.ofScript (answer : Metric → Nat → SampleReply) : Source Counts :=
  fun metric _ counts => (answer metric (counts.get metric), counts.add metric)

end QueueDrain.Heap
