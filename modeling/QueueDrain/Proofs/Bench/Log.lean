import QueueDrain.Bench.Session
import QueueDrain.Proofs.Heap.Loop

/-!
The log of a session: what each action adds to it.

While a session waits, only its samplers act, and all that they add is requests for metrics
(`fetched_waitUntil`).  Everything else in the log comes from the benchmark: its `calls` are the
requests that drive an iteration.
-/

namespace QueueDrain

/-- A request that drives an iteration; what a sampler asks for is none. -/
inductive Call where
  | command (c : Command)
  | report
deriving DecidableEq

namespace Event

/-- The call that an event is. -/
def call? : Event → Option Call
  | .command c => some (.command c)
  | .report => some .report
  | _ => none

/-- Whether an event is a request for a metric. -/
def isFetch : Event → Bool
  | .fetch _ => true
  | _ => false

theorem call?_eq_none_of_isFetch {event : Event} (h : event.isFetch) : event.call? = none := by
  cases event with
  | fetch metric => rfl
  | _ => cases h

end Event

namespace Session

variable {σ : Type} {target : Target σ}

/-- All events with their times, in order. -/
def log (s : Session σ) : List (Nat × Event) := s.events.reverse

/-- The calls among events, with their times. -/
def callsOf (events : List (Nat × Event)) : List (Nat × Call) :=
  events.filterMap fun e => e.2.call?.map (e.1, ·)

/-- All calls with the times at which they start, in order. -/
def calls (s : Session σ) : List (Nat × Call) := callsOf s.log

theorem callsOf_append (events events' : List (Nat × Event)) :
    callsOf (events ++ events') = callsOf events ++ callsOf events' := List.filterMap_append

theorem callsOf_eq_nil {events : List (Nat × Event)} (h : ∀ e ∈ events, e.2.isFetch) :
    callsOf events = [] := by
  refine List.filterMap_eq_nil_iff.mpr fun e he => ?_
  rw [Event.call?_eq_none_of_isFetch (h e he)]
  rfl

theorem log_note (event : Event) (s : Session σ) :
    (s.note event).log = s.log ++ [(s.clock, event)] := List.reverse_cons

theorem calls_note (event : Event) (s : Session σ) :
    (s.note event).calls = s.calls ++ (event.call?.map (s.clock, ·)).toList := by
  rw [calls, log_note, callsOf_append]
  rcases h : event.call? with _ | call <;> simp [callsOf, calls, h]

/-! ### Waiting -/

/-- What each request for a metric keeps, the samplers keep while their owner waits. -/
theorem advanceAll_keeps {P : σ × List (Nat × Event) → Prop}
    (hsource : ∀ metric time x, P x → P (target.source metric time x).2) (limit : Nat) :
    ∀ (samplers : List Heap.Sampler) {x : σ × List (Nat × Event)}, P x →
      P (advanceAll target limit samplers x).2 := by
  intro samplers
  induction samplers with
  | nil =>
    intro x h
    exact h
  | cons sampler samplers ih =>
    intro x h
    exact ih (Heap.Loop.advance_keeps_source hsource sampler.loop h)

theorem waitUntil_keeps (target : Target σ) {P : σ × List (Nat × Event) → Prop}
    (hsource : ∀ metric time x, P x → P (target.source metric time x).2) (time : Nat)
    {s : Session σ} (h : P (s.target, s.events)) :
    P ((s.waitUntil target time).target, (s.waitUntil target time).events) :=
  advanceAll_keeps hsource time s.samplers h

/-- The requests for metrics that are added to the events before them. -/
def Fetched (events : List (Nat × Event)) (x : σ × List (Nat × Event)) : Prop :=
  ∃ new, x.2 = new ++ events ∧ ∀ e ∈ new, e.2.isFetch

theorem fetched_source (target : Target σ) (events : List (Nat × Event)) (metric : Heap.Metric)
    (time : Nat) (x : σ × List (Nat × Event)) (h : Fetched events x) :
    Fetched events (target.source metric time x).2 := by
  obtain ⟨new, hnew, hfetch⟩ := h
  -- a source takes note of one request and of nothing else
  refine ⟨(time, .fetch metric) :: new, ?_, ?_⟩
  · show (time, Event.fetch metric) :: x.2 = _
    rw [hnew]
    rfl
  · intro e he
    rcases List.mem_cons.mp he with rfl | he
    · rfl
    · exact hfetch e he

theorem fetched_refl (x : σ × List (Nat × Event)) : Fetched x.2 x :=
  ⟨[], rfl, fun _ he => absurd he List.not_mem_nil⟩

theorem log_of_fetched {s s' : Session σ} (h : Fetched s.events (s'.target, s'.events)) :
    ∃ new, s'.log = s.log ++ new ∧ ∀ e ∈ new, e.2.isFetch := by
  obtain ⟨new, hnew, hfetch⟩ := h
  refine ⟨new.reverse, ?_, fun e he => hfetch e (List.mem_reverse.mp he)⟩
  rw [log, show s'.events = new ++ s.events from hnew, List.reverse_append]
  rfl

theorem calls_of_fetched {s s' : Session σ} (h : Fetched s.events (s'.target, s'.events)) :
    s'.calls = s.calls := by
  obtain ⟨new, hlog, hfetch⟩ := log_of_fetched h
  rw [calls, hlog, callsOf_append, callsOf_eq_nil hfetch, List.append_nil]
  rfl

theorem fetched_waitUntil (target : Target σ) (time : Nat) (s : Session σ) :
    Fetched s.events ((s.waitUntil target time).target, (s.waitUntil target time).events) :=
  waitUntil_keeps target (fetched_source target s.events) time (fetched_refl (s.target, s.events))

/-- **A session that waits makes no calls.** -/
theorem calls_waitUntil (target : Target σ) (time : Nat) (s : Session σ) :
    (s.waitUntil target time).calls = s.calls :=
  calls_of_fetched (fetched_waitUntil target time s)

/-! ### Results -/

theorem record_of_refusal {refusal : Nat → Option String} {s : Session σ} {reason : String}
    (h : refusal s.recorded.length = some reason) (target : Target σ) (result : RunResult) :
    (bench target refusal).record result s = (.error (.io reason), s) := by
  simp only [bench, h]

theorem record_of_room {refusal : Nat → Option String} {s : Session σ}
    (h : refusal s.recorded.length = none) (target : Target σ) (result : RunResult) :
    (bench target refusal).record result s
      = (.ok (), { s with recorded := result :: s.recorded }) := by
  simp only [bench, h]

end Session

end QueueDrain
