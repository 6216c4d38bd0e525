import QueueDrain.Proofs.Bench.Log

/-!
The invariant of a session.

In an `Orderly` session the log is in the order of time, no event of a sampler lies in the past, and
at most the sampler started last is live.  Every action of a benchmark keeps a session orderly, if
no sampler is live when the next one is started (`Orderly.startSampler`); and when a sampler has
been waited for, none is (`finishSampler_spec`).
-/

namespace QueueDrain.Session

variable {σ : Type} {target : Target σ}

/-- The number of samplers that are live. -/
def liveCount (s : Session σ) : Nat := s.samplers.countP (·.loop.isLive)

/-- No sampler is live. -/
def Quiet (s : Session σ) : Prop := ∀ x ∈ s.samplers, x.loop.due? = none

/-- All samplers but the one started last have ended. -/
def TakesTurns (s : Session σ) : Prop := ∀ x ∈ s.samplers.tail, x.loop.due? = none

/-- A session in the order of time. -/
structure Orderly (s : Session σ) : Prop where
  past : ∀ e ∈ s.events, e.1 ≤ s.clock
  /-- The last event comes first. -/
  sorted : s.events.Pairwise fun e e' => e'.1 ≤ e.1
  endedBy : ∀ x ∈ s.samplers, x.loop.EndedBy s.clock
  le_due : ∀ x ∈ s.samplers, ∀ due, x.loop.due? = some due → s.clock ≤ due
  takesTurns : s.TakesTurns

theorem isLive_eq_false {loop : Heap.Loop} (h : loop.due? = none) : loop.isLive = false := by
  rw [Heap.Loop.isLive, h]
  rfl

theorem countP_isLive_of_dead {samplers : List Heap.Sampler}
    (h : ∀ x ∈ samplers, x.loop.due? = none) : samplers.countP (·.loop.isLive) = 0 :=
  List.countP_eq_zero.mpr fun x hx => by simp [isLive_eq_false (h x hx)]

theorem TakesTurns.of_cons {s : Session σ} (h : s.TakesTurns) {x : Heap.Sampler}
    {rest : List Heap.Sampler} (hs : s.samplers = x :: rest) : ∀ y ∈ rest, y.loop.due? = none := by
  rw [TakesTurns, hs] at h
  exact h

theorem TakesTurns.liveCount_le {s : Session σ} (h : s.TakesTurns) : s.liveCount ≤ 1 := by
  rw [Session.liveCount]
  rcases hs : s.samplers with _ | ⟨x, rest⟩
  · exact Nat.zero_le 1
  · have hdead : rest.countP (·.loop.isLive) = 0 := countP_isLive_of_dead (h.of_cons hs)
    rw [List.countP_cons, hdead]
    split <;> omega

/-! ### Waiting -/

theorem advanceAll_of_dead {samplers : List Heap.Sampler} (h : ∀ x ∈ samplers, x.loop.due? = none)
    (target : Target σ) (limit : Nat) (x : σ × List (Nat × Event)) :
    advanceAll target limit samplers x = (samplers, x) := by
  induction samplers with
  | nil => rfl
  | cons y samplers ih =>
    rw [advanceAll, Heap.Sampler.advance,
      Heap.Loop.advance_of_due?_eq_none (h y List.mem_cons_self)]
    dsimp only
    rw [ih fun z hz => h z (List.mem_cons_of_mem y hz)]

/-- While no sampler is live, nothing happens but that time passes. -/
theorem waitUntil_of_quiet {s : Session σ} (h : s.Quiet) (target : Target σ) (time : Nat) :
    s.waitUntil target time = { s with clock := time } := by
  rw [waitUntil, advanceAll_of_dead h]

/-- While only the last sampler is live, only that one acts. -/
theorem waitUntil_cons {s : Session σ} {x : Heap.Sampler} {rest : List Heap.Sampler}
    (hs : s.samplers = x :: rest) (hrest : ∀ y ∈ rest, y.loop.due? = none) (target : Target σ)
    (time : Nat) :
    s.waitUntil target time =
      { s with
        clock := time
        target := (x.loop.advance target.source time (s.target, s.events)).2.1
        events := (x.loop.advance target.source time (s.target, s.events)).2.2
        samplers :=
          { x with loop := (x.loop.advance target.source time (s.target, s.events)).1 }
            :: rest } := by
  rw [waitUntil, hs, advanceAll, Heap.Sampler.advance]
  dsimp only
  rw [advanceAll_of_dead hrest]

/-- Whoever waits, no sampler comes to life. -/
theorem TakesTurns.waitUntil {s : Session σ} (h : s.TakesTurns) (target : Target σ) (time : Nat) :
    (s.waitUntil target time).TakesTurns := by
  rcases hs : s.samplers with _ | ⟨x, rest⟩
  · have hquiet : s.Quiet := by
      intro y hy
      rw [hs] at hy
      cases hy
    rw [waitUntil_of_quiet hquiet]
    exact h
  · rw [waitUntil_cons hs (h.of_cons hs)]
    exact h.of_cons hs

/--
The events before the next one of a loop, in the order of time.  No event is later than `limit`, and
none is later than `floor` if the loop ended before.
-/
structure Tidy (floor limit : Nat) (loop : Heap.Loop) (events : List (Nat × Event)) : Prop where
  le_limit : ∀ e ∈ events, e.1 ≤ limit
  sorted : events.Pairwise fun e e' => e'.1 ≤ e.1
  le_due : ∀ due, loop.due? = some due → ∀ e ∈ events, e.1 ≤ due
  le_ended : ∀ t, loop.activity = .finished t ∨ loop.activity = .crashed t →
    ∀ e ∈ events, e.1 ≤ max floor t

theorem Tidy.fire {floor limit : Nat} {loop : Heap.Loop} {x : σ × List (Nat × Event)} {due : Nat}
    (h : Tidy floor limit loop x.2) (hdue : loop.due? = some due) (hle : due ≤ limit) :
    Tidy floor limit (loop.fire target.source x).1 (loop.fire target.source x).2.2 := by
  have hpast := h.le_due due hdue
  have hlater : ∀ next, (loop.fire target.source x).1.due? = some next → due ≤ next :=
    fun next hnext => Heap.Loop.due_le_due_fire target.source hdue hnext
  have hended := Heap.Loop.endedBy_fire target.source hdue x
  rcases Heap.Loop.fire_cases target.source hdue x with ⟨metric, series, heq⟩ | ⟨heq, hrests⟩
  · -- a request at `due`
    have hevents : (loop.fire target.source x).2.2 = (due, .fetch metric) :: x.2 := by
      rw [heq]
      rfl
    have hmem : ∀ e ∈ (loop.fire target.source x).2.2, e.1 ≤ due := by
      intro e he
      rw [hevents] at he
      rcases List.mem_cons.mp he with rfl | he
      · exact Nat.le_refl _
      · exact hpast e he
    constructor
    · exact fun e he => Nat.le_trans (hmem e he) hle
    · rw [hevents]
      exact List.pairwise_cons.mpr ⟨hpast, h.sorted⟩
    · exact fun next hnext e he => Nat.le_trans (hmem e he) (hlater next hnext)
    · intro t ht
      rw [heq] at ht
      simp [Heap.Loop.ask] at ht
  · -- no request, and if the loop ends, it ends at `due`
    rw [heq]
    constructor
    · exact h.le_limit
    · exact h.sorted
    · exact fun next hnext e he => Nat.le_trans (hpast e he) (hlater next hnext)
    · intro t ht e he
      have hdue' : t = due := by
        rcases hrests with hact | hact | hact
        · simpa [hact, eq_comm] using ht
        · simpa [hact, eq_comm] using ht
        · simp [hact] at ht
      rw [hdue']
      exact Nat.le_trans (hpast e he) (Nat.le_max_right floor due)

theorem Tidy.advance {floor limit : Nat} {loop : Heap.Loop} {x : σ × List (Nat × Event)}
    (h : Tidy floor limit loop x.2) (target : Target σ) :
    Tidy floor limit (loop.advance target.source limit x).1
      (loop.advance target.source limit x).2.2 :=
  Heap.Loop.advance_keeps (Q := fun loop x => Tidy floor limit loop x.2)
    (fun _ _ _ hdue hle h => h.fire hdue hle) loop x h

/-! ### Actions -/

/-- The events of an orderly session so far, before the next one of its last sampler. -/
theorem Orderly.tidy {s : Session σ} (h : s.Orderly) {x : Heap.Sampler} (hx : x ∈ s.samplers)
    {limit : Nat} (hle : s.clock ≤ limit) : Tidy s.clock limit x.loop s.events where
  le_limit e he := Nat.le_trans (h.past e he) hle
  sorted := h.sorted
  le_due due hdue e he := Nat.le_trans (h.past e he) (h.le_due x hx due hdue)
  le_ended t _ e he := Nat.le_trans (h.past e he) (Nat.le_max_left s.clock t)

theorem Orderly.note {s : Session σ} (h : s.Orderly) (event : Event) : (s.note event).Orderly where
  past := by
    intro e he
    rcases List.mem_cons.mp he with rfl | he
    · exact Nat.le_refl _
    · exact h.past e he
  sorted := List.pairwise_cons.mpr ⟨h.past, h.sorted⟩
  endedBy := h.endedBy
  le_due := h.le_due
  takesTurns := h.takesTurns

theorem Orderly.withTarget {s : Session σ} (h : s.Orderly) (state : σ) :
    { s with target := state }.Orderly := ⟨h.past, h.sorted, h.endedBy, h.le_due, h.takesTurns⟩

theorem Orderly.waitUntil {s : Session σ} (h : s.Orderly) (target : Target σ) {time : Nat}
    (hle : s.clock ≤ time) : (s.waitUntil target time).Orderly := by
  rcases hs : s.samplers with _ | ⟨x, rest⟩
  · have hnone : ∀ y ∈ s.samplers, False := by simp [hs]
    rw [waitUntil_of_quiet (fun y hy => (hnone y hy).elim)]
    constructor
    · exact fun e he => Nat.le_trans (h.past e he) hle
    · exact h.sorted
    · exact fun y hy => (hnone y hy).elim
    · exact fun y hy => (hnone y hy).elim
    · exact h.takesTurns
  · have hmem : ∀ y ∈ x :: rest, y ∈ s.samplers := fun y hy => hs ▸ hy
    have hrest := h.takesTurns.of_cons hs
    -- the last sampler carries the order of the events with it
    have htidy := (h.tidy (hmem x List.mem_cons_self) hle).advance target
      (x := (s.target, s.events))
    have hended := (h.endedBy x (hmem x List.mem_cons_self)).mono hle
    rw [waitUntil_cons hs hrest]
    constructor
    · exact htidy.le_limit
    · exact htidy.sorted
    · intro y hy
      rcases List.mem_cons.mp hy with rfl | hy
      · exact Heap.Loop.endedBy_advance target.source hended _
      · exact (h.endedBy y (hmem y (List.mem_cons_of_mem x hy))).mono hle
    · intro y hy due hdue
      rcases List.mem_cons.mp hy with rfl | hy
      · exact Nat.le_of_lt (Heap.Loop.lt_due_advance x.loop _ hdue)
      · rw [hrest y hy] at hdue
        cases hdue
    · exact hrest

theorem Orderly.await {α : Type} {s : Session σ} (h : s.Orderly) (target : Target σ) (phase : Phase)
    (reply : Reply α) : (s.await target phase reply).2.Orderly :=
  (h.waitUntil target (Nat.le_add_right s.clock reply.delayMs)).note _

theorem Orderly.command {s : Session σ} (h : s.Orderly) (target : Target σ) (c : Command) :
    (s.command target c).2.Orderly := ((h.note (.command c)).withTarget _).await target c.phase _

/-- The next sampler may be started when no other one is live. -/
theorem Orderly.startSampler {s : Session σ} (h : s.Orderly) (hquiet : s.Quiet) (intervalMs : Nat) :
    (s.startSampler intervalMs).Orderly where
  past := (h.note .samplerStart).past
  sorted := (h.note .samplerStart).sorted
  endedBy := by
    intro x hx
    rcases List.mem_cons.mp hx with rfl | hx
    · intro t ht
      rcases ht with ht | ht <;> cases ht
    · exact h.endedBy x hx
  le_due := by
    intro x hx due hdue
    rcases List.mem_cons.mp hx with rfl | hx
    · exact Nat.le_of_eq (Option.some.inj hdue)
    · exact h.le_due x hx due hdue
  takesTurns := hquiet

/-- A command while no sampler is live: the log has the command and its answer, and nothing else. -/
theorem command_of_quiet {s : Session σ} (h : s.Quiet) (target : Target σ) (c : Command) :
    (s.command target c).2.Quiet ∧ (s.command target c).2.log
      = s.log ++ [(s.clock, .command c),
          ((s.command target c).2.clock, .answer c.phase (s.command target c).1.isOk)] := by
  rcases hreply : target.command c s.clock s.target with ⟨reply, state⟩
  have hquiet : Quiet { s.note (.command c) with target := state } := h
  rw [Session.command, hreply]
  dsimp only
  rw [await, waitUntil_of_quiet hquiet]
  refine ⟨h, ?_⟩
  rw [log_note]
  show (s.note (.command c)).log ++ _ = _
  rw [log_note, List.append_assoc]
  rfl

/-! ### What a sampler asks for -/

/-- What a loop asks for until some time: only metrics, and the used heap first. -/
structure Asks (loop : Heap.Loop) (limit : Nat) (new : List (Nat × Event)) : Prop where
  isFetch : ∀ e ∈ new, e.2.isFetch
  used : ∀ due, loop.activity = .ready due → due ≤ limit → (due, .fetch .used) ∈ new

theorem exists_asks (target : Target σ) (loop : Heap.Loop) (limit : Nat)
    (x : σ × List (Nat × Event)) :
    ∃ new, (loop.advance target.source limit x).2.2 = new.reverse ++ x.2 ∧ Asks loop limit new := by
  by_cases hready : ∃ due, loop.activity = .ready due ∧ due ≤ limit
  · obtain ⟨due, hact, hle⟩ := hready
    have hdue : loop.due? = some due := by
      rw [Heap.Loop.due?, hact]
    -- the first event asks for the used heap; all that follows is added to it
    have hfirst : Fetched ((due, .fetch .used) :: x.2) (loop.fire target.source x).2 := by
      rw [Heap.Loop.fire, hact]
      exact fetched_refl _
    obtain ⟨new, hnew, hfetch⟩ : Fetched _ ((loop.fire target.source x).1.advance target.source
        limit (loop.fire target.source x).2).2 :=
      Heap.Loop.advance_keeps_source (fetched_source target _) _ hfirst
    refine ⟨(due, .fetch .used) :: new.reverse, ?_, ?_, ?_⟩
    · rw [Heap.Loop.advance_of_due_le hdue hle, hnew]
      simp
    · intro e he
      rcases List.mem_cons.mp he with rfl | he
      · rfl
      · exact hfetch e (List.mem_reverse.mp he)
    · intro due' hact' _
      obtain rfl : due = due' := by simpa [hact] using hact'
      exact List.mem_cons_self
  · obtain ⟨new, hnew, hfetch⟩ := Heap.Loop.advance_keeps_source
      (fetched_source target x.2) loop (fetched_refl x)
    refine ⟨new.reverse, ?_, ?_, ?_⟩
    · rw [hnew, List.reverse_reverse]
    · exact fun e he => hfetch e (List.mem_reverse.mp he)
    · exact fun due hact hle => absurd ⟨due, hact, hle⟩ hready

theorem log_waitUntil_cons {s : Session σ} {x : Heap.Sampler} {rest : List Heap.Sampler}
    (hs : s.samplers = x :: rest) (hrest : ∀ y ∈ rest, y.loop.due? = none) (target : Target σ)
    (time : Nat) :
    ∃ new, (s.waitUntil target time).log = s.log ++ new ∧ Asks x.loop time new := by
  obtain ⟨new, hnew, hasks⟩ := exists_asks target x.loop time (s.target, s.events)
  refine ⟨new, ?_, hasks⟩
  rw [waitUntil_cons hs hrest, log]
  dsimp only
  rw [hnew, List.reverse_append, List.reverse_reverse]
  rfl

/-! ### The end of a sampler -/

/-- What the end of the last sampler does, between two states of a session. -/
structure Finishes (graceMs : Nat) (sampler : Heap.Sampler) (s s' : Session σ) : Prop where
  orderly : s'.Orderly
  quiet : s'.Quiet
  le_clock : s.clock ≤ s'.clock
  clock_le : s'.clock ≤ s.clock + graceMs
  recorded : s'.recorded = s.recorded
  log : ∃ new, s'.log = s.log ++ new ++ [(s'.clock, .samplerEnd)] ∧
    Asks sampler.loop (s.clock + graceMs) new

/-- A loop that is asked to stop asks first for what it would have asked for. -/
theorem Asks.of_stop {loop : Heap.Loop} {time limit : Nat} {new : List (Nat × Event)}
    (h : Asks (loop.stop time) limit new) : Asks loop limit new where
  isFetch := h.isFetch
  used := by
    intro due hact hle
    refine h.used due ?_ hle
    rw [Heap.Loop.stop, hact]

/-- When the wait for the last sampler is over, all events are past and in order. -/
theorem Orderly.join {s : Session σ} (h : s.Orderly) {x : Heap.Sampler} (hx : x ∈ s.samplers)
    (hfirst : x.outcome = none) (target : Target σ) (graceMs : Nat) {join : Heap.Sampler.Join}
    {y : σ × List (Nat × Event)}
    (hjoin : (x.stop s.clock).join target.source s.clock graceMs (s.target, s.events) = (join, y)) :
    Heap.Sampler.Ends s.clock graceMs join ∧ (∀ e ∈ y.2, e.1 ≤ join.time) ∧
      (y.2.Pairwise fun e e' => e'.1 ≤ e.1) ∧
      ∃ new, y.2 = new.reverse ++ s.events ∧ Asks x.loop (s.clock + graceMs) new := by
  have hstop : (x.stop s.clock).outcome = none := hfirst
  have hstate := Heap.Sampler.join_state target.source hstop s.clock graceMs (s.target, s.events)
  have htidy : Tidy s.clock (s.clock + graceMs) (x.stop s.clock).loop s.events :=
    { h.tidy hx (Nat.le_add_right s.clock graceMs) with
      le_due := fun due hdue e he => Nat.le_trans (h.past e he)
        (h.le_due x hx due (Heap.Loop.due?_of_due?_stop hdue))
      le_ended := fun t _ e he => Nat.le_trans (h.past e he) (Nat.le_max_left s.clock t) }
  have hdone := htidy.advance target (x := (s.target, s.events))
  obtain ⟨new, hnew, hasks⟩ := exists_asks target (x.stop s.clock).loop (s.clock + graceMs)
    (s.target, s.events)
  have hends := Heap.Sampler.join_spec target.source hstop graceMs
    (Heap.Loop.endedBy_stop (h.endedBy x hx)) (s.target, s.events)
  have hpast := fun e he => Heap.Sampler.le_join_time hstop (hdone.le_limit e he)
    fun ended hact => hdone.le_ended ended hact e he
  have hsorted := hdone.sorted
  rw [← hstate] at hnew hpast hsorted
  rw [hjoin] at hends hnew hpast hsorted
  exact ⟨hends, hpast, hsorted, new, hnew, hasks.of_stop⟩

/-- **After the end of the last sampler none is live**, and the grace has not been exceeded. -/
theorem finishSampler_spec {s : Session σ} (h : s.Orderly) {x : Heap.Sampler}
    {rest : List Heap.Sampler} (hs : s.samplers = x :: rest) (hfirst : x.outcome = none)
    (target : Target σ) (graceMs : Nat) :
    Finishes graceMs x s (s.finishSampler target graceMs).2 := by
  have hx : x ∈ s.samplers := hs ▸ List.mem_cons_self
  have hrest := h.takesTurns.of_cons hs
  have hended : ∀ y ∈ rest, y.loop.EndedBy s.clock :=
    fun y hy => h.endedBy y (hs ▸ List.mem_cons_of_mem x hy)
  rw [finishSampler, hs]
  dsimp only
  rcases hjoin : (x.stop s.clock).join target.source s.clock graceMs (s.target, s.events)
    with ⟨join, state, events⟩
  obtain ⟨hends, hpast, hsorted, new, hnew, hasks⟩ := h.join hx hfirst target graceMs hjoin
  -- all samplers have ended now, so the rest of the wait changes only the clock
  have hquiet : Quiet
      { s with target := state, samplers := join.sampler :: rest, events := events } := by
    intro y hy
    rcases List.mem_cons.mp hy with rfl | hy
    · exact hends.due?
    · exact hrest y hy
  dsimp only
  rw [waitUntil_of_quiet hquiet]
  have horderly : Orderly
      { s with
        clock := join.time
        target := state
        samplers := join.sampler :: rest
        events := events } := by
    constructor
    · exact hpast
    · exact hsorted
    · intro y hy
      rcases List.mem_cons.mp hy with rfl | hy
      · exact hends.endedBy
      · exact (hended y hy).mono hends.le_time
    · intro y hy due hdue
      rw [hquiet y hy] at hdue
      cases hdue
    · exact hrest
  -- the end itself is noted at the time of the join
  constructor
  · exact horderly.note .samplerEnd
  · exact hquiet
  · exact hends.le_time
  · exact hends.time_le
  · rfl
  · refine ⟨new, ?_, hasks⟩
    rw [log_note, log]
    dsimp only at hnew ⊢
    rw [hnew, List.reverse_append, List.reverse_reverse]
    rfl

end QueueDrain.Session
