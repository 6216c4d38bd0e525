import QueueDrain.Proofs.Heap.Loop

/-!
Samplers through whatever their owner does with them.

A sampler is followed from one action to the next (`Sampler.Moment`), in any order of actions and
with any source.

* `Loop.IsStopped.stop_eq`: a second request to stop changes nothing;
* `join_of_finished`, `join_of_crashed`, `join_of_live`: what the first wait brings;
* `Moment.getElem?_history`: a history shows what is seen at its moments;
* `Moment.Idle.after`: a loop that is over stays over, and asks for nothing;
* `Moment.Done.after`: the outcome of the first wait is the last word.
-/

namespace QueueDrain.Heap

variable {σ : Type} {source : Source σ}

/-! ### Loops that were asked to stop -/

namespace Loop

/-- A loop that was asked to stop; it does not pause any more. -/
structure IsStopped (loop : Loop) : Prop where
  stopping : loop.stopping = true
  activity : ∀ due, loop.activity ≠ .pausing due

variable {loop : Loop}

theorem isStopped_stop (time : Nat) (loop : Loop) : (loop.stop time).IsStopped := by
  obtain ⟨interval, activity, stopping, series⟩ := loop
  cases activity <;> exact ⟨rfl, nofun⟩

/-- **A second request to stop changes nothing.** -/
theorem IsStopped.stop_eq (h : loop.IsStopped) (time : Nat) : loop.stop time = loop := by
  obtain ⟨interval, activity, stopping, series⟩ := loop
  obtain ⟨rfl, hactivity⟩ := h
  cases activity with
  | pausing due => exact absurd rfl (hactivity due)
  | ready | fetching | finished | crashed | aborted => rfl

theorem isStopped_next (loop : Loop) (h : loop.stopping = true) (metric : Metric) (time : Nat)
    (state : σ) : (loop.next source metric time state).1.IsStopped := by
  cases metric with
  | used => exact ⟨h, nofun⟩
  | max => exact ⟨h, nofun⟩
  | committed =>
    refine ⟨h, ?_⟩
    intro due hpausing
    rw [next, endTick, h] at hpausing
    cases hpausing

theorem IsStopped.fire (h : loop.IsStopped) (state : σ) :
    (loop.fire source state).1.IsStopped := by
  obtain ⟨interval, activity, stopping, series⟩ := loop
  obtain ⟨hstopping, hactivity⟩ := h
  cases activity with
  | ready due => exact ⟨hstopping, nofun⟩
  | fetching metric sample due =>
    cases sample with
    | value x =>
      exact isStopped_next ⟨interval, .fetching metric (.value x) due, stopping,
        series.push metric x⟩ hstopping metric due state
    | missing => exact isStopped_next _ hstopping metric due state
    | crash => exact ⟨hstopping, nofun⟩
  | pausing due => exact absurd rfl (hactivity due)
  | finished | crashed | aborted => exact ⟨hstopping, hactivity⟩

theorem IsStopped.advance (h : loop.IsStopped) (limit : Nat) (state : σ) :
    (loop.advance source limit state).1.IsStopped :=
  advance_keeps (Q := fun loop _ => loop.IsStopped) (fun _ state _ _ _ h => h.fire state) loop
    state h

theorem IsStopped.abort (h : loop.IsStopped) : loop.abort.IsStopped := by
  rw [Loop.abort]
  split
  · refine ⟨h.stopping, ?_⟩
    intro due hpausing
    cases hpausing
  · exact h

theorem due?_stop_of_eq_none (h : loop.due? = none) (time : Nat) :
    (loop.stop time).due? = none := by
  refine Option.eq_none_iff_forall_ne_some.mpr fun due hdue => ?_
  cases h.symm.trans (due?_of_due?_stop hdue)

end Loop

namespace Sampler

/-! ### First waits -/

section Join

variable {sampler : Sampler} {time grace : Nat} {state state' : σ} {loop : Loop}

/-- The first wait for a loop that ends in time keeps its samples. -/
theorem join_of_finished (hfirst : sampler.outcome = none)
    (hadvance : sampler.loop.advance source (time + grace) state = (loop, state')) {ended : Nat}
    (hactivity : loop.activity = .finished ended) :
    sampler.join source time grace state
      = (⟨true, max time ended, ⟨loop, some (some loop.series)⟩⟩, state') := by
  rw [join, hfirst, hadvance]
  dsimp only
  rw [hactivity]

/-- The first wait for a loop that has a fault in time is over with the fault. -/
theorem join_of_crashed (hfirst : sampler.outcome = none)
    (hadvance : sampler.loop.advance source (time + grace) state = (loop, state')) {ended : Nat}
    (hactivity : loop.activity = .crashed ended) :
    sampler.join source time grace state
      = (⟨false, max time ended, ⟨loop, some none⟩⟩, state') := by
  rw [join, hfirst, hadvance]
  dsimp only
  rw [hactivity]

/-- The first wait for a loop that goes on abandons it after the grace. -/
theorem join_of_live (hfirst : sampler.outcome = none)
    (hadvance : sampler.loop.advance source (time + grace) state = (loop, state')) {due : Nat}
    (hdue : loop.due? = some due) :
    sampler.join source time grace state
      = (⟨false, time + grace, ⟨{ loop with activity := .aborted }, some none⟩⟩, state') := by
  have habort : loop.abort = { loop with activity := .aborted } := by
    rw [Loop.abort, Loop.isLive, hdue]
    rfl
  rw [join, hfirst, hadvance]
  dsimp only
  split
  · rename_i hactivity
    simp [Loop.due?, hactivity] at hdue
  · rename_i hactivity
    simp [Loop.due?, hactivity] at hdue
  · rw [habort]

/-- After the first wait there is an outcome, which has a series if the wait said so. -/
theorem outcome_join (source : Source σ) (hfirst : sampler.outcome = none) (time grace : Nat)
    (state : σ) :
    ∃ outcome, (sampler.join source time grace state).1.sampler.outcome = some outcome ∧
      (sampler.join source time grace state).1.joined = outcome.isSome := by
  rw [join, hfirst]
  dsimp only
  split
  · exact ⟨some _, rfl, rfl⟩
  · exact ⟨none, rfl, rfl⟩
  · exact ⟨none, rfl, rfl⟩

/-- After the first wait the loop has done all that was due within the grace, and it was aborted if
it did not end. -/
theorem loop_join (source : Source σ) (hfirst : sampler.outcome = none) (time grace : Nat)
    (state : σ) :
    (sampler.join source time grace state).1.sampler.loop
        = (sampler.loop.advance source (time + grace) state).1 ∨
      (sampler.join source time grace state).1.sampler.loop
        = (sampler.loop.advance source (time + grace) state).1.abort := by
  rcases hadvance : sampler.loop.advance source (time + grace) state with ⟨loop, state'⟩
  obtain ⟨joined, ended, series, -, hjoin⟩ | ⟨-, hjoin⟩ :=
    join_cases hfirst time grace state hadvance
  · exact Or.inl (by rw [hjoin])
  · exact Or.inr (by rw [hjoin])

/-- After the first wait the loop is over. -/
theorem due?_join (source : Source σ) (hfirst : sampler.outcome = none) (time grace : Nat)
    (state : σ) : (sampler.join source time grace state).1.sampler.loop.due? = none := by
  rw [join, hfirst]
  dsimp only
  split
  · rename_i hactivity
    simp [Loop.due?, hactivity]
  · rename_i hactivity
    simp [Loop.due?, hactivity]
  · exact Loop.due?_abort _

end Join

theorem stats_of_outcome_eq_none {sampler : Sampler} (h : sampler.outcome = none) :
    sampler.stats = {} := by
  rw [Sampler.stats, h]

theorem advance_drop (source : Source σ) (sampler : Sampler) (limit : Nat) (state : σ) :
    (sampler.drop.advance source limit state).2 = state := by
  have hdue : sampler.drop.loop.due? = none := Loop.due?_abort sampler.loop
  rw [Sampler.advance, Loop.advance_of_due?_eq_none hdue]

/-! ### Moments -/

/-- A sampler at some time, with the state of its source. -/
structure Moment (σ : Type) where
  time : Nat
  sampler : Sampler
  state : σ

namespace Moment

/-- What an action shows. -/
def see (source : Source σ) (moment : Moment σ) (action : Action) : Observation σ :=
  (moment.sampler.act source moment.time moment.state action).1

/-- What a wait at a moment brings. -/
def join (source : Source σ) (moment : Moment σ) (grace : Nat) : Join :=
  (moment.sampler.join source moment.time grace moment.state).1

/-- The moment after an action. -/
def act (source : Source σ) (moment : Moment σ) (action : Action) : Moment σ where
  time := (moment.see source action).time
  sampler := (moment.sampler.act source moment.time moment.state action).2
  state := (moment.see source action).state

/-- The moment after some actions. -/
def after (source : Source σ) (moment : Moment σ) (actions : List Action) : Moment σ :=
  actions.foldl (act source) moment

variable {moment : Moment σ}

theorem after_cons (action : Action) (actions : List Action) :
    moment.after source (action :: actions) = (moment.act source action).after source actions := rfl

theorem after_append (before actions : List Action) :
    moment.after source (before ++ actions) = (moment.after source before).after source actions :=
  List.foldl_append

/-- **What every action keeps is kept by all of them.** -/
theorem after_keeps {P : Moment σ → Prop}
    (hact : ∀ moment action, P moment → P (moment.act source action)) (h : P moment)
    (actions : List Action) : P (moment.after source actions) := by
  induction actions generalizing moment with
  | nil => exact h
  | cons action actions ih => exact ih (hact moment action h)

/-- What actions from a moment on show. -/
def history (source : Source σ) (moment : Moment σ) (actions : List Action) :
    List (Observation σ) :=
  (Sampler.history source moment.time moment.sampler moment.state actions).1

/-- **A history shows what its moments show**, action by action. -/
theorem getElem?_history (source : Source σ) (moment : Moment σ) {actions : List Action} {k : Nat}
    (h : k < actions.length) :
    (moment.history source actions)[k]?
      = some ((moment.after source (actions.take k)).see source actions[k]) := by
  induction actions generalizing moment k with
  | nil => cases h
  | cons action actions ih =>
    cases k with
    | zero => rfl
    | succ k => exact ih (moment.act source action) (Nat.lt_of_succ_lt_succ h)

/-! ### What is over -/

/-- The loop of a sampler is over, and its source is in some state. -/
structure Idle (state : σ) (moment : Moment σ) : Prop where
  due? : moment.sampler.loop.due? = none
  state_eq : moment.state = state

/-- **A loop that is over stays over**, and asks for nothing. -/
theorem Idle.act {state : σ} (h : moment.Idle state) (action : Action) :
    (moment.act source action).Idle state := by
  obtain ⟨time, sampler, state'⟩ := moment
  obtain ⟨hdue, rfl⟩ := h
  have hadvance : ∀ limit, sampler.loop.advance source limit state' = (sampler.loop, state') :=
    fun limit => Loop.advance_of_due?_eq_none hdue limit state'
  cases action with
  | sleep ms =>
    refine ⟨?_, ?_⟩
    · simp only [Moment.act, Sampler.act, Sampler.advance, hadvance]
      exact hdue
    · simp only [Moment.act, see, Sampler.act, Sampler.advance, hadvance]
  | stop => exact ⟨Loop.due?_stop_of_eq_none hdue time, rfl⟩
  | join grace =>
    rcases hfirst : sampler.outcome with _ | outcome
    · have hstate := join_state source hfirst time grace state'
      rw [hadvance] at hstate
      exact ⟨due?_join source hfirst time grace state', hstate⟩
    · simp only [Moment.act, see, Sampler.act, Sampler.join, hfirst]
      exact ⟨hdue, rfl⟩
  | stats => exact ⟨hdue, rfl⟩

theorem Idle.after {state : σ} (h : moment.Idle state) (actions : List Action) :
    (moment.after source actions).Idle state :=
  after_keeps (fun _ action h => h.act action) h actions

/-- A sampler was waited for, with some outcome. -/
structure Done (outcome : Option Series) (state : σ) (moment : Moment σ) : Prop
    extends moment.Idle state where
  outcome_eq : moment.sampler.outcome = some outcome

theorem Done.act {outcome : Option Series} {state : σ} (h : moment.Done outcome state)
    (action : Action) : (moment.act source action).Done outcome state := by
  refine ⟨h.toIdle.act action, ?_⟩
  cases action with
  | sleep ms => exact h.outcome_eq
  | stop => exact h.outcome_eq
  | join grace =>
    simp only [Moment.act, Sampler.act, Sampler.join, h.outcome_eq]
  | stats => exact h.outcome_eq

/-- **The outcome of the first wait is the last word.** -/
theorem Done.after {outcome : Option Series} {state : σ} (h : moment.Done outcome state)
    (actions : List Action) : (moment.after source actions).Done outcome state :=
  after_keeps (fun _ action h => h.act action) h actions

/-- A later wait takes no time, and repeats what the first one said. -/
theorem Done.see_join {outcome : Option Series} {state : σ} (h : moment.Done outcome state)
    (grace : Nat) :
    moment.see source (.join grace)
      = { time := moment.time, state := state, joined := some outcome.isSome } := by
  simp only [see, Sampler.act, Sampler.join, h.outcome_eq, h.state_eq]

theorem Done.stats {outcome : Option Series} {state : σ} (h : moment.Done outcome state) :
    moment.sampler.stats = (outcome.map Series.summarize).getD {} := by
  rw [Sampler.stats, h.outcome_eq]
  cases outcome <;> rfl

/-- **After the first wait a sampler is done**, and it has a series if the wait said so. -/
theorem done_join (source : Source σ) (hfirst : moment.sampler.outcome = none) (grace : Nat) :
    ∃ outcome, (moment.act source (.join grace)).Done outcome
        (moment.act source (.join grace)).state ∧
      (moment.join source grace).joined = outcome.isSome := by
  obtain ⟨outcome, houtcome, hjoined⟩ :=
    outcome_join source hfirst moment.time grace moment.state
  have hdue := due?_join source hfirst moment.time grace moment.state
  exact ⟨outcome, ⟨⟨hdue, rfl⟩, houtcome⟩, hjoined⟩

/-! ### Requests to stop -/

theorem isStopped_act (h : moment.sampler.loop.IsStopped) (action : Action) :
    (moment.act source action).sampler.loop.IsStopped := by
  cases action with
  | sleep ms => exact h.advance (moment.time + ms) moment.state
  | stop => exact Loop.isStopped_stop moment.time moment.sampler.loop
  | join grace =>
    rcases hfirst : moment.sampler.outcome with _ | outcome
    · obtain hloop | hloop := loop_join source hfirst moment.time grace moment.state
      · exact hloop ▸ h.advance _ _
      · exact hloop ▸ (h.advance _ _).abort
    · simp only [Moment.act, Sampler.act, Sampler.join, hfirst]
      exact h
  | stats => exact h

theorem isStopped_after (h : moment.sampler.loop.IsStopped) (actions : List Action) :
    (moment.after source actions).sampler.loop.IsStopped :=
  after_keeps (P := fun moment => moment.sampler.loop.IsStopped)
    (fun _ action h => isStopped_act h action) h actions

/-- **Stopping is idempotent**: a request to stop that is not the first changes nothing. -/
theorem act_stop_of_isStopped (h : moment.sampler.loop.IsStopped) :
    moment.act source .stop = moment := by
  obtain ⟨time, ⟨loop, outcome⟩, state⟩ := moment
  simp only [Moment.act, see, Sampler.act, Sampler.stop, Loop.IsStopped.stop_eq h]

end Moment

end Sampler

end QueueDrain.Heap
