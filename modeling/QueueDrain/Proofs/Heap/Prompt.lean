import QueueDrain.Proofs.Heap.Loop

/-!
Samplers whose requests are answered at once.

With a source that takes no time and has no faults, a loop is never behind: what it waits for is
there already, unless it pauses (`Loop.Prompt`).  So a loop that was told to stop ends at that very
time, and a wait for it takes no time (`Sampler.join_stop_of_prompt`).
-/

namespace QueueDrain.Heap

variable {σ : Type}

/-- A source that answers at once, without faults. -/
def Source.IsPrompt (source : Source σ) : Prop :=
  ∀ metric time state,
    (source metric time state).1.delayMs = 0 ∧ (source metric time state).1.sample ≠ .crash

namespace Loop

/-- A loop that, unless it pauses, waits for nothing beyond some time; it only pauses while it may
go on. -/
inductive Prompt (time : Nat) (loop : Loop) : Prop where
  | ready {due : Nat} (activity : loop.activity = .ready due) (le : due ≤ time)
  | fetching {metric : Metric} {sample : Sample} {due : Nat}
    (activity : loop.activity = .fetching metric sample due) (le : due ≤ time)
    (sound : sample ≠ .crash)
  | pausing {due : Nat} (activity : loop.activity = .pausing due) (running : loop.stopping = false)
  | finished {ended : Nat} (activity : loop.activity = .finished ended) (le : ended ≤ time)

variable {source : Source σ} {time : Nat} {loop : Loop}

theorem prompt_start (interval time : Nat) : (start interval time).Prompt time :=
  .ready rfl (Nat.le_refl time)

theorem Prompt.mono {time' : Nat} (h : loop.Prompt time) (hle : time ≤ time') :
    loop.Prompt time' := by
  cases h with
  | ready activity le => exact .ready activity (Nat.le_trans le hle)
  | fetching activity le sound => exact .fetching activity (Nat.le_trans le hle) sound
  | pausing activity running => exact .pausing activity running
  | finished activity le => exact .finished activity (Nat.le_trans le hle)

/-- A question is answered by the time it is asked. -/
theorem prompt_ask (hsource : source.IsPrompt) (metric : Metric) {due : Nat} (hdue : due ≤ time)
    (loop : Loop) (state : σ) : (loop.ask source metric due state).1.Prompt time := by
  obtain ⟨hdelay, hsound⟩ := hsource metric due state
  have hactivity : (loop.ask source metric due state).1.activity =
      .fetching metric (source metric due state).1.sample due := by
    rw [ask]
    dsimp only
    rw [hdelay, Nat.add_zero]
  exact .fetching hactivity hdue hsound

theorem prompt_endTick {due : Nat} (hdue : due ≤ time) (loop : Loop) :
    (loop.endTick due).Prompt time := by
  rcases hstop : loop.stopping with _ | _
  · exact .pausing (by rw [endTick, hstop]; rfl) hstop
  · exact .finished (by rw [endTick, hstop]; rfl) hdue

theorem prompt_next (hsource : source.IsPrompt) (metric : Metric) {due : Nat} (hdue : due ≤ time)
    (loop : Loop) (state : σ) : (loop.next source metric due state).1.Prompt time := by
  cases metric with
  | used => exact prompt_ask hsource .max hdue loop state
  | max => exact prompt_ask hsource .committed hdue loop state
  | committed => exact prompt_endTick hdue loop

theorem Prompt.fire (hsource : source.IsPrompt) (h : loop.Prompt time) {due : Nat}
    (hdue : loop.due? = some due) (hle : due ≤ time) (state : σ) :
    (loop.fire source state).1.Prompt time := by
  cases h with
  | @ready d activity _ =>
    obtain rfl : d = due := by simpa [due?, activity] using hdue
    rw [Loop.fire, activity]
    exact prompt_ask hsource .used hle loop state
  | @fetching metric sample d activity _ sound =>
    obtain rfl : d = due := by simpa [due?, activity] using hdue
    rw [Loop.fire, activity]
    cases sample with
    | value x => exact prompt_next hsource metric hle _ state
    | missing => exact prompt_next hsource metric hle loop state
    | crash => exact absurd rfl sound
  | @pausing d activity _ =>
    obtain rfl : d = due := by simpa [due?, activity] using hdue
    rw [Loop.fire, activity]
    exact prompt_ask hsource .used hle loop state
  | finished activity _ => simp [due?, activity] at hdue

theorem stopping_next (source : Source σ) (metric : Metric) (time : Nat) (loop : Loop) (state : σ) :
    (loop.next source metric time state).1.stopping = loop.stopping := by
  cases metric <;> rfl

/-- Nothing that a loop does is a request to stop. -/
theorem stopping_fire (source : Source σ) (loop : Loop) (state : σ) :
    (loop.fire source state).1.stopping = loop.stopping := by
  obtain ⟨interval, activity, stopping, series⟩ := loop
  rcases activity with d | ⟨metric, sample, d⟩ | d | d | d | _
  · rfl
  · cases sample with
    | value x => exact stopping_next source metric d _ state
    | missing => exact stopping_next source metric d _ state
    | crash => rfl
  · rfl
  · rfl
  · rfl
  · rfl

theorem Prompt.advance (hsource : source.IsPrompt) {limit : Nat} (h : loop.Prompt time)
    (hlimit : time ≤ limit) (state : σ) : (loop.advance source limit state).1.Prompt limit :=
  advance_keeps (Q := fun loop _ => loop.Prompt limit)
    (fun _ state _ hdue hle h => h.fire hsource hdue hle state) loop state (h.mono hlimit)

theorem Prompt.stop (h : loop.Prompt time) : (loop.stop time).Prompt time := by
  rw [Loop.stop]
  cases h with
  | ready activity le =>
    rw [activity]
    exact .ready rfl le
  | fetching activity le sound =>
    rw [activity]
    exact .fetching rfl le sound
  | pausing activity _ =>
    rw [activity]
    exact .finished rfl (Nat.le_refl time)
  | finished activity le =>
    rw [activity]
    exact .finished rfl le

theorem stopping_stop (time : Nat) (loop : Loop) : (loop.stop time).stopping = true := by
  rw [stop]
  split <;> rfl

/-- All that a loop still does after a request to stop is due already. -/
theorem Prompt.due_le (h : loop.Prompt time) (hstopping : loop.stopping = true) {due : Nat}
    (hdue : loop.due? = some due) : due ≤ time := by
  cases h with
  | ready activity le =>
    simp only [due?, activity, Option.some.injEq] at hdue
    exact hdue ▸ le
  | fetching activity le _ =>
    simp only [due?, activity, Option.some.injEq] at hdue
    exact hdue ▸ le
  | pausing _ running => cases running.symm.trans hstopping
  | finished activity _ => simp [due?, activity] at hdue

/-- A loop that was told to stop ends without any more time. -/
theorem Prompt.exists_finished (hsource : source.IsPrompt) (h : loop.Prompt time)
    (hstopping : loop.stopping = true) {limit : Nat} (hlimit : time ≤ limit) (state : σ) :
    ∃ ended ≤ time, (loop.advance source limit state).1.activity = .finished ended := by
  obtain ⟨hprompt, hstopping⟩ : (loop.advance source limit state).1.Prompt time ∧
      (loop.advance source limit state).1.stopping = true :=
    advance_keeps (Q := fun loop _ => loop.Prompt time ∧ loop.stopping = true)
      (fun loop state _ hdue _ ⟨h, hstopping⟩ =>
        ⟨h.fire hsource hdue (h.due_le hstopping hdue) state,
          (stopping_fire source loop state).trans hstopping⟩) loop state ⟨h, hstopping⟩
  -- whatever is left would be later than the limit
  have hnone : (loop.advance source limit state).1.due? = none := by
    refine Option.eq_none_iff_forall_ne_some.mpr fun due hdue => ?_
    have hlater := lt_due_advance loop state hdue
    have hearlier := hprompt.due_le hstopping hdue
    omega
  cases hprompt with
  | ready activity _ => simp [due?, activity] at hnone
  | fetching activity _ _ => simp [due?, activity] at hnone
  | pausing activity _ => simp [due?, activity] at hnone
  | finished activity le => exact ⟨_, le, activity⟩

end Loop

namespace Sampler

variable {source : Source σ} {time : Nat} {sampler : Sampler}

/-- **A wait takes no time** for a sampler that was told to stop. -/
theorem join_stop_of_prompt (hsource : source.IsPrompt) (h : sampler.loop.Prompt time)
    (grace : Nat) (state : σ) :
    ((sampler.stop time).join source time grace state).1.time = time ∧
      ((sampler.stop time).join source time grace state).1.sampler.loop.Prompt time := by
  rcases hfirst : sampler.outcome with _ | series
  · obtain ⟨ended, hle, hactivity⟩ := h.stop.exists_finished hsource
      (Loop.stopping_stop time sampler.loop) (Nat.le_add_right time grace) state
    rw [join, stop, hfirst]
    dsimp only
    rw [hactivity]
    exact ⟨Nat.max_eq_left hle, .finished hactivity hle⟩
  · rw [join, stop, hfirst]
    exact ⟨rfl, h.stop⟩

end Sampler

end QueueDrain.Heap
