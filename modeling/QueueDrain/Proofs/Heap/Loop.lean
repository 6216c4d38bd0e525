import QueueDrain.Heap.Sampler

/-!
What a sampling loop does until some time, and what a wait for it brings.

* `fire_cases`: an event asks for one metric, or it asks for nothing and says when the next one is;
* `advance_keeps`: what each event keeps is kept until any time;
* `join_spec`: a wait is over within the grace, and after it the loop is not live.
-/

namespace QueueDrain.Heap

variable {σ : Type} {source : Source σ}

namespace Loop

/-! ### One event -/

/-- An activity after a tick or a fault at some time, with a pause of some length. -/
def Rests (time interval : Nat) (activity : Activity) : Prop :=
  activity = .finished time ∨ activity = .crashed time ∨ activity = .pausing (time + max 1 interval)

theorem next_cases (source : Source σ) (metric : Metric) (time : Nat) (loop : Loop) (state : σ) :
    (∃ metric', loop.next source metric time state = loop.ask source metric' time state) ∨
      (loop.next source metric time state).2 = state ∧
        Rests time loop.interval (loop.next source metric time state).1.activity := by
  rcases metric with _ | _ | _
  · exact Or.inl ⟨.max, rfl⟩
  · exact Or.inl ⟨.committed, rfl⟩
  · refine Or.inr ⟨rfl, ?_⟩
    by_cases hs : loop.stopping
    · simp [next, endTick, Rests, hs]
    · simp [next, endTick, Rests, hs]

/-- **One event** asks for a metric when it is due, or it asks for nothing. -/
theorem fire_cases (source : Source σ) {loop : Loop} {due : Nat} (hdue : loop.due? = some due)
    (state : σ) :
    (∃ metric series, loop.fire source state
        = { loop with series := series }.ask source metric due state) ∨
      (loop.fire source state).2 = state ∧
        Rests due loop.interval (loop.fire source state).1.activity := by
  obtain ⟨interval, activity, stopping, series⟩ := loop
  -- only a loop that is ready, fetches or pauses has an event
  rcases activity with d | ⟨metric, sample, d⟩ | d | d | d | _ <;>
    simp only [due?, Option.some.injEq, reduceCtorEq] at hdue <;> subst hdue
  · exact Or.inl ⟨.used, series, rfl⟩
  · rcases sample with x | _ | _
    · rcases next_cases source metric d
        ⟨interval, .fetching metric (.value x) d, stopping, series.push metric x⟩ state
        with ⟨metric', heq⟩ | h
      · exact Or.inl ⟨metric', _, heq⟩
      · exact Or.inr h
    · rcases next_cases source metric d
        ⟨interval, .fetching metric .missing d, stopping, series⟩ state with ⟨metric', heq⟩ | h
      · exact Or.inl ⟨metric', _, heq⟩
      · exact Or.inr h
    · exact Or.inr ⟨rfl, Or.inr (Or.inl rfl)⟩
  · exact Or.inl ⟨.used, series, rfl⟩

/-- What every request keeps of the source, an event keeps. -/
theorem fire_keeps {P : σ → Prop}
    (hsource : ∀ metric time state, P state → P (source metric time state).2)
    {loop : Loop} {due : Nat} (hdue : loop.due? = some due) {state : σ} (h : P state) :
    P (loop.fire source state).2 := by
  rcases fire_cases source hdue state with ⟨metric, series, heq⟩ | ⟨heq, -⟩
  · rw [heq]
    exact hsource metric due state h
  · rw [heq]
    exact h

theorem due_le_due_fire (source : Source σ) {loop : Loop} {due due' : Nat}
    (hdue : loop.due? = some due) {state : σ}
    (hnext : (loop.fire source state).1.due? = some due') : due ≤ due' := by
  rcases fire_cases source hdue state with ⟨metric, series, heq⟩ | ⟨-, h | h | h⟩
  · rw [heq] at hnext
    simp only [ask, due?, Option.some.injEq] at hnext
    omega
  · simp [due?, h] at hnext
  · simp [due?, h] at hnext
  · simp only [due?, h, Option.some.injEq] at hnext
    omega

/-! ### Ends -/

/-- A loop that has not ended later than at some time, if it has ended at all. -/
def EndedBy (time : Nat) (loop : Loop) : Prop :=
  ∀ t, loop.activity = .finished t ∨ loop.activity = .crashed t → t ≤ time

theorem EndedBy.mono {time time' : Nat} {loop : Loop} (h : loop.EndedBy time)
    (hle : time ≤ time') : loop.EndedBy time' := fun t ht => Nat.le_trans (h t ht) hle

theorem endedBy_fire (source : Source σ) {loop : Loop} {due : Nat} (hdue : loop.due? = some due)
    (state : σ) :
    (loop.fire source state).1.EndedBy due := by
  intro t ht
  rcases fire_cases source hdue state with ⟨metric, series, heq⟩ | ⟨-, h | h | h⟩
  · rw [heq] at ht
    simp [ask] at ht
  · rw [h] at ht
    simp at ht
    omega
  · rw [h] at ht
    simp at ht
    omega
  · rw [h] at ht
    simp at ht

theorem endedBy_stop {time : Nat} {loop : Loop} (h : loop.EndedBy time) :
    (loop.stop time).EndedBy time := by
  obtain ⟨interval, activity, stopping, series⟩ := loop
  rcases activity with d | ⟨metric, sample, d⟩ | d | d | d | _ <;> intro t ht
  · exact h t ht
  · exact h t ht
  · simp [stop] at ht
    omega
  · exact h t ht
  · exact h t ht
  · exact h t ht

theorem due?_of_due?_stop {time due : Nat} {loop : Loop} (h : (loop.stop time).due? = some due) :
    loop.due? = some due := by
  obtain ⟨interval, activity, stopping, series⟩ := loop
  rcases activity with d | ⟨metric, sample, d⟩ | d | d | d | _
  · exact h
  · exact h
  · simp [stop, due?] at h
  · exact h
  · exact h
  · exact h

theorem due?_abort (loop : Loop) : loop.abort.due? = none := by
  rw [abort]
  by_cases hlive : loop.isLive
  · rw [if_pos hlive]
    rfl
  · rw [if_neg hlive]
    simpa [isLive] using hlive

theorem EndedBy.abort {time : Nat} {loop : Loop} (h : loop.EndedBy time) :
    loop.abort.EndedBy time := by
  rw [Loop.abort]
  by_cases hlive : loop.isLive
  · rw [if_pos hlive]
    intro t ht
    simp at ht
  · rw [if_neg hlive]
    exact h

/-! ### All events until some time -/

theorem advance_of_due?_eq_none {loop : Loop} (h : loop.due? = none) (limit : Nat) (state : σ) :
    loop.advance source limit state = (loop, state) := by
  rw [advance]
  split
  · rfl
  · rename_i due hdue
    rw [h] at hdue
    cases hdue

theorem advance_of_lt_due {loop : Loop} {due limit : Nat} (hdue : loop.due? = some due)
    (hlt : limit < due) (state : σ) : loop.advance source limit state = (loop, state) := by
  rw [advance]
  split
  · rfl
  · rename_i due' hdue'
    obtain rfl : due = due' := Option.some.inj (hdue.symm.trans hdue')
    rw [dif_neg (by omega)]

theorem advance_of_due_le {loop : Loop} {due limit : Nat} (hdue : loop.due? = some due)
    (hle : due ≤ limit) (state : σ) :
    loop.advance source limit state
      = (loop.fire source state).1.advance source limit (loop.fire source state).2 := by
  conv => lhs; rw [advance]
  split
  · rename_i hnone
    rw [hdue] at hnone
    cases hnone
  · rename_i due' hdue'
    obtain rfl : due = due' := Option.some.inj (hdue.symm.trans hdue')
    rw [dif_pos hle]

/-- **What each event keeps is kept until any time.** -/
theorem advance_keeps {limit : Nat} {Q : Loop → σ → Prop}
    (hfire : ∀ loop state due, loop.due? = some due → due ≤ limit → Q loop state →
      Q (loop.fire source state).1 (loop.fire source state).2)
    (loop : Loop) (state : σ) (h : Q loop state) :
    Q (loop.advance source limit state).1 (loop.advance source limit state).2 := by
  -- along the events, until there is none or the next one is too late
  induction loop, state using advance.induct source limit with
  | case1 loop state hdue =>
    rw [advance_of_due?_eq_none hdue]
    exact h
  | case2 loop state due hdue hle ih =>
    rw [advance_of_due_le hdue hle]
    exact ih (hfire loop state due hdue hle h)
  | case3 loop state due hdue hle =>
    rw [advance_of_lt_due hdue (by omega)]
    exact h

/-- After the events until some time, the next one is later. -/
theorem lt_due_advance {limit : Nat} (loop : Loop) (state : σ) {due : Nat}
    (h : (loop.advance source limit state).1.due? = some due) : limit < due := by
  induction loop, state using advance.induct source limit with
  | case1 loop state hdue =>
    rw [advance_of_due?_eq_none hdue, hdue] at h
    cases h
  | case2 loop state due' hdue hle ih =>
    rw [advance_of_due_le hdue hle] at h
    exact ih h
  | case3 loop state due' hdue hle =>
    rw [advance_of_lt_due hdue (by omega), hdue] at h
    obtain rfl := Option.some.inj h
    omega

theorem advance_keeps_source {limit : Nat} {P : σ → Prop}
    (hsource : ∀ metric time state, P state → P (source metric time state).2)
    (loop : Loop) {state : σ} (h : P state) : P (loop.advance source limit state).2 :=
  advance_keeps (Q := fun _ state => P state)
    (fun _ _ _ hdue _ h => fire_keeps hsource hdue h) loop state h

theorem endedBy_advance (source : Source σ) {limit : Nat} {loop : Loop} (h : loop.EndedBy limit)
    (state : σ) :
    (loop.advance source limit state).1.EndedBy limit :=
  advance_keeps (Q := fun loop _ => loop.EndedBy limit)
    (fun _ state _ hdue hle _ => (endedBy_fire source hdue state).mono hle) loop state h

end Loop

/-! ### Waits for a loop -/

namespace Sampler

/-- The first wait for a loop ends with the loop, or with the grace if the loop goes on. -/
theorem join_cases {sampler : Sampler} (hfirst : sampler.outcome = none) (time grace : Nat)
    (state : σ) {loop : Loop} {state' : σ}
    (hadvance : sampler.loop.advance source (time + grace) state = (loop, state')) :
    (∃ joined ended series, (loop.activity = .finished ended ∨ loop.activity = .crashed ended) ∧
        sampler.join source time grace state
          = (⟨joined, max time ended, ⟨loop, some series⟩⟩, state')) ∨
      (∀ ended, loop.activity ≠ .finished ended ∧ loop.activity ≠ .crashed ended) ∧
        sampler.join source time grace state
          = (⟨false, time + grace, ⟨loop.abort, some none⟩⟩, state') := by
  rw [join, hfirst]
  dsimp only
  rw [hadvance]
  dsimp only
  rcases hact : loop.activity with d | ⟨metric, sample, d⟩ | d | ended | ended | _
  · exact Or.inr ⟨by simp, rfl⟩
  · exact Or.inr ⟨by simp, rfl⟩
  · exact Or.inr ⟨by simp, rfl⟩
  · exact Or.inl ⟨true, ended, some loop.series, Or.inl rfl, rfl⟩
  · exact Or.inl ⟨false, ended, none, Or.inr rfl, rfl⟩
  · exact Or.inr ⟨by simp, rfl⟩

/-- What the first wait for a loop brings. -/
structure Ends (time grace : Nat) (join : Join) : Prop where
  le_time : time ≤ join.time
  time_le : join.time ≤ time + grace
  due? : join.sampler.loop.due? = none
  endedBy : join.sampler.loop.EndedBy join.time
  outcome : join.sampler.outcome.isSome

/-- **A wait is over within the grace**, and after it the loop is not live. -/
theorem join_spec (source : Source σ) {sampler : Sampler} (hfirst : sampler.outcome = none)
    {time : Nat} (grace : Nat) (hended : sampler.loop.EndedBy time) (state : σ) :
    Ends time grace (sampler.join source time grace state).1 := by
  -- within the grace the loop ends by itself, or it is aborted
  have hby := Loop.endedBy_advance source (hended.mono (Nat.le_add_right time grace)) state
  rcases hadvance : sampler.loop.advance source (time + grace) state with ⟨loop, state'⟩
  rw [hadvance] at hby
  rcases join_cases hfirst time grace state hadvance
    with ⟨joined, ended, series, hact, hjoin⟩ | ⟨-, hjoin⟩
  · have hle : ended ≤ time + grace := hby ended hact
    rw [hjoin]
    refine ⟨Nat.le_max_left _ _, ?_, ?_, ?_, rfl⟩
    · dsimp only
      omega
    · rcases hact with hact | hact <;> simp [Loop.due?, hact]
    · intro t ht
      have htime : t = ended := by
        rcases hact with hact | hact <;> simpa [hact, eq_comm] using ht
      rw [htime]
      exact Nat.le_max_right time ended
  · rw [hjoin]
    exact ⟨Nat.le_add_right time grace, Nat.le_refl _, loop.due?_abort, hby.abort, rfl⟩

theorem join_state (source : Source σ) {sampler : Sampler} (hfirst : sampler.outcome = none)
    (time grace : Nat) (state : σ) :
    (sampler.join source time grace state).2
      = (sampler.loop.advance source (time + grace) state).2 := by
  rcases hadvance : sampler.loop.advance source (time + grace) state with ⟨loop, state'⟩
  rcases join_cases hfirst time grace state hadvance
    with ⟨joined, ended, series, -, hjoin⟩ | ⟨-, hjoin⟩
  · rw [hjoin]
  · rw [hjoin]

/-- A wait is not over before the end of the loop, or of the grace. -/
theorem le_join_time {sampler : Sampler} (hfirst : sampler.outcome = none) {time grace t : Nat}
    {state : σ} (hgrace : t ≤ time + grace)
    (hended : ∀ ended, (sampler.loop.advance source (time + grace) state).1.activity
        = .finished ended ∨ (sampler.loop.advance source (time + grace) state).1.activity
        = .crashed ended → t ≤ max time ended) :
    t ≤ (sampler.join source time grace state).1.time := by
  rcases hadvance : sampler.loop.advance source (time + grace) state with ⟨loop, state'⟩
  rw [hadvance] at hended
  rcases join_cases hfirst time grace state hadvance
    with ⟨joined, ended, series, hact, hjoin⟩ | ⟨-, hjoin⟩
  · rw [hjoin]
    exact hended ended hact
  · rw [hjoin]
    exact hgrace

theorem join_keeps {P : σ → Prop}
    (hsource : ∀ metric time state, P state → P (source metric time state).2)
    (sampler : Sampler) (time grace : Nat) {state : σ} (h : P state) :
    P (sampler.join source time grace state).2 := by
  rcases hfirst : sampler.outcome with _ | series
  · rw [join_state source hfirst]
    exact Loop.advance_keeps_source hsource sampler.loop h
  · rw [join, hfirst]
    exact h

end Sampler

end QueueDrain.Heap
