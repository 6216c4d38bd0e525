import QueueDrain.Proofs.Bench.Coupling
import QueueDrain.Proofs.Bench.Orderly

/-!
Samplers do not leak.

The log of a run consists of one `Round` for each iteration that was begun.  Metrics are asked for
within a round only, after its reset has succeeded and before its sampler has ended, and at no
moment is more than one sampler live.  `runMatrix_contained` says so of every run, whatever the
system under test answers and however the run ends.

Design notes: to speak of all moments of a run, the run is repeated with a witness who takes note of
the session after every action (`witnessed`); that nothing else changes is `lift_twin`.
-/

namespace QueueDrain

namespace Event

/-- What can happen between the reset of an iteration and its end. -/
def isInner : Event → Bool
  | .command c => c ≠ .reset
  | .report => true
  | .answer phase _ => phase ≠ .reset
  | .fetch _ => true
  | .samplerStart => false
  | .samplerEnd => false

theorem isInner_of_isFetch {event : Event} (h : event.isFetch) : event.isInner := by
  cases event with
  | fetch metric => rfl
  | _ => cases h

end Event

/-- The events of one iteration, by whether the heap is sampled. -/
inductive Round : (sampling : Bool) → List (Nat × Event) → Prop where
  /-- The reset fails. -/
  | refused (sampling : Bool) (t t' : Nat) :
    Round sampling [(t, .command .reset), (t', .answer .reset false)]
  | unsampled (t t' : Nat) {body : List (Nat × Event)} (inner : ∀ e ∈ body, e.2.isInner)
    (silent : ∀ e ∈ body, ¬ e.2.isFetch) :
    Round false ((t, .command .reset) :: (t', .answer .reset true) :: body)
  /-- The sampler is started at the success of the reset, and its end is the last event. -/
  | sampled (t t' t'' : Nat) {body : List (Nat × Event)} (inner : ∀ e ∈ body, e.2.isInner)
    (used : ∃ time, (time, .fetch .used) ∈ body) :
    Round true ((t, .command .reset) :: (t', .answer .reset true) :: (t', .samplerStart) ::
      (body ++ [(t'', .samplerEnd)]))

namespace Round

variable {sampling : Bool} {round : List (Nat × Event)}

/-- Metrics are asked for between the success of the reset and the end of the sampler. -/
theorem window (h : Round sampling round) (hsorted : round.Pairwise fun e e' => e.1 ≤ e'.1)
    {t : Nat} {metric : Heap.Metric} (hfetch : (t, .fetch metric) ∈ round) :
    ∃ t₁ t₂, (t₁, .answer .reset true) ∈ round ∧ (t₂, .samplerEnd) ∈ round ∧ t₁ ≤ t ∧ t ≤ t₂ := by
  cases h with
  | refused => simp at hfetch
  | @unsampled t₀ t₁ body inner silent =>
    have hbody : (t, Event.fetch metric) ∈ body := by simpa using hfetch
    exact absurd rfl (silent _ hbody)
  | @sampled t₀ t₁ t₂ body inner used =>
    have hbody : (t, Event.fetch metric) ∈ body := by simpa using hfetch
    refine ⟨t₁, t₂, by simp, by simp, ?_, ?_⟩
    · have hafter := (List.pairwise_cons.mp (List.pairwise_cons.mp hsorted).2).1
      exact hafter (t, .fetch metric)
        (List.mem_cons_of_mem _ (List.mem_append_left _ hbody))
    · have hrest := (List.pairwise_cons.mp (List.pairwise_cons.mp
        (List.pairwise_cons.mp hsorted).2).2).2
      exact (List.pairwise_append.mp hrest).2.2 _ hbody _ (List.mem_singleton_self _)

theorem silent (h : Round false round) : ∀ e ∈ round, ¬ e.2.isFetch := by
  cases h with
  | refused => simp [Event.isFetch]
  | unsampled t t' inner silent =>
    intro e he
    rcases List.mem_cons.mp he with rfl | he
    · simp [Event.isFetch]
    · rcases List.mem_cons.mp he with rfl | he
      · simp [Event.isFetch]
      · exact silent e he

theorem used (h : Round true round) {t : Nat} (hreset : (t, .answer .reset true) ∈ round) :
    ∃ t', (t', .fetch .used) ∈ round := by
  cases h with
  | refused => simp at hreset
  | sampled t₀ t₁ t₂ inner used =>
    obtain ⟨time, hused⟩ := used
    exact ⟨time, by simp [hused]⟩

theorem refused_silent (h : Round sampling round) {t : Nat}
    (hreset : (t, .answer .reset false) ∈ round) : ∀ e ∈ round, ¬ e.2.isFetch := by
  cases h with
  | refused => simp [Event.isFetch]
  | unsampled t₀ t₁ inner silent => exact (Round.unsampled t₀ t₁ inner silent).silent
  | @sampled t₀ t₁ t₂ body inner used =>
    -- no other answer to a reset comes within the body
    have hbody : (t, Event.answer .reset false) ∈ body := by simpa using hreset
    exact absurd (inner _ hbody) (by simp [Event.isInner])

end Round

namespace Session

variable {σ : Type} {target : Target σ} {sampling : Bool}

/-! ### One iteration -/

/-- The samplers of a session within an iteration, after some events of the iteration. -/
inductive Background (s : Session σ) (body : List (Nat × Event)) : (sampling : Bool) → Prop where
  | quiet (quiet : s.Quiet) (silent : ∀ e ∈ body, ¬ e.2.isFetch) : Background s body false
  /-- The sampler has asked for the used heap, or it will do so first. -/
  | live {x : Heap.Sampler} {rest : List Heap.Sampler} (samplers : s.samplers = x :: rest)
    (outcome : x.outcome = none)
    (used : (∃ time, (time, .fetch .used) ∈ body) ∨
      ∃ due, x.loop.activity = .ready due ∧ due ≤ s.clock) : Background s body true

/-- A session within an iteration, where `base` is the log at the start of its body. -/
structure Amid (sampling : Bool) (base : List (Nat × Event)) (s : Session σ) : Prop where
  orderly : s.Orderly
  body : ∃ body, s.log = base ++ body ∧ (∀ e ∈ body, e.2.isInner) ∧ Background s body sampling

namespace Amid

variable {base : List (Nat × Event)} {s : Session σ}

theorem note (h : Amid sampling base s) {event : Event} (hinner : event.isInner)
    (hsilent : ¬ event.isFetch) : Amid sampling base (s.note event) := by
  obtain ⟨body, hlog, hbody, hback⟩ := h.body
  refine ⟨h.orderly.note event, body ++ [(s.clock, event)], ?_, ?_, ?_⟩
  · rw [log_note, hlog, List.append_assoc]
  · intro e he
    rcases List.mem_append.mp he with he | he
    · exact hbody e he
    · obtain rfl := List.mem_singleton.mp he
      exact hinner
  · cases hback with
    | quiet quiet silent =>
      refine .quiet quiet fun e he => ?_
      rcases List.mem_append.mp he with he | he
      · exact silent e he
      · obtain rfl := List.mem_singleton.mp he
        exact hsilent
    | live samplers outcome used =>
      refine .live samplers outcome ?_
      rcases used with ⟨time, hused⟩ | hready
      · exact Or.inl ⟨time, List.mem_append_left _ hused⟩
      · exact Or.inr hready

theorem withTarget (h : Amid sampling base s) (state : σ) :
    Amid sampling base { s with target := state } := by
  obtain ⟨body, hlog, hbody, hback⟩ := h.body
  refine ⟨h.orderly.withTarget state, body, hlog, hbody, ?_⟩
  cases hback with
  | quiet quiet silent => exact .quiet quiet silent
  | live samplers outcome used => exact .live samplers outcome used

theorem waitUntil (h : Amid sampling base s) (target : Target σ) {time : Nat}
    (hle : s.clock ≤ time) : Amid sampling base (s.waitUntil target time) := by
  refine ⟨h.orderly.waitUntil target hle, ?_⟩
  obtain ⟨body, hlog, hbody, hback⟩ := h.body
  cases hback with
  | quiet quiet silent =>
    rw [waitUntil_of_quiet quiet]
    exact ⟨body, hlog, hbody, .quiet quiet silent⟩
  | @live x rest samplers outcome used =>
    have hrest := h.orderly.takesTurns.of_cons samplers
    obtain ⟨new, hnew, hasks⟩ := log_waitUntil_cons samplers hrest target time
    refine ⟨body ++ new, ?_, ?_, ?_⟩
    · rw [hnew, hlog, List.append_assoc]
    · intro e he
      rcases List.mem_append.mp he with he | he
      · exact hbody e he
      · exact Event.isInner_of_isFetch (hasks.isFetch e he)
    · -- whatever the sampler was to ask for first, it has asked for now
      have hused : ∃ time, (time, Event.fetch .used) ∈ body ++ new := by
        rcases used with ⟨t, hused⟩ | ⟨due, hready, hdue⟩
        · exact ⟨t, List.mem_append_left _ hused⟩
        · exact ⟨due, List.mem_append_right _
            (hasks.used due hready (Nat.le_trans hdue hle))⟩
      rw [waitUntil_cons samplers hrest]
      exact .live rfl outcome (Or.inl hused)

theorem await {α : Type} (h : Amid sampling base s) (target : Target σ) {phase : Phase}
    (hphase : phase ≠ .reset) (reply : Reply α) :
    Amid sampling base (s.await target phase reply).2 :=
  (h.waitUntil target (Nat.le_add_right s.clock reply.delayMs)).note
    (by simpa [Event.isInner] using hphase) (by simp [Event.isFetch])

theorem command (h : Amid sampling base s) (target : Target σ) {c : Command} (hc : c ≠ .reset) :
    Amid sampling base (s.command target c).2 := by
  have hphase : c.phase ≠ .reset := by
    cases c with
    | reset => exact absurd rfl hc
    | seed items => simp [Command.phase]
    | dispatch mode => simp [Command.phase]
  have hinner : (Event.command c).isInner := by
    simpa [Event.isInner] using hc
  exact ((h.note hinner (by simp [Event.isFetch])).withTarget _).await target hphase _

theorem finishes (h : Amid true base s) (target : Target σ) (graceMs : Nat) :
    ∃ x, Finishes graceMs x s (s.finishSampler target graceMs).2 := by
  obtain ⟨body, hlog, hbody, hback⟩ := h.body
  cases hback with
  | @live x rest samplers outcome used =>
    exact ⟨x, finishSampler_spec h.orderly samplers outcome target graceMs⟩

theorem report (h : Amid sampling base s) (target : Target σ) :
    Amid sampling base (s.report target).2 := by
  have hinner : Event.report.isInner := rfl
  exact ((h.note hinner (by simp [Event.isFetch])).withTarget _).await target (by simp) _

end Amid

/-! ### All iterations -/

/-- A log that consists of the rounds of iterations. -/
def Rounds (sampling : Bool) (log : List (Nat × Event)) : Prop :=
  ∃ rounds : List (List (Nat × Event)), log = rounds.flatten ∧
    ∀ round ∈ rounds, Round sampling round

theorem Rounds.append {log round : List (Nat × Event)} (h : Rounds sampling log)
    (hround : Round sampling round) : Rounds sampling (log ++ round) := by
  obtain ⟨rounds, hlog, hrounds⟩ := h
  refine ⟨rounds ++ [round], ?_, ?_⟩
  · rw [hlog, List.flatten_append, List.flatten_singleton]
  · intro other hother
    rcases List.mem_append.mp hother with hother | hother
    · exact hrounds other hother
    · obtain rfl := List.mem_singleton.mp hother
      exact hround

/-- A session between two iterations. -/
structure Between (sampling : Bool) (s : Session σ) : Prop where
  orderly : s.Orderly
  quiet : s.Quiet
  rounds : Rounds sampling s.log

/-- A session at the success of a reset. -/
structure Cleared (sampling : Bool) (s : Session σ) : Prop where
  orderly : s.Orderly
  quiet : s.Quiet
  rounds : ∃ log t, Rounds sampling log ∧
    s.log = log ++ [(t, .command .reset), (s.clock, .answer .reset true)]

theorem between_start (sampling : Bool) (state : σ) : Between sampling { target := state } where
  orderly :=
    { past := by simp
      sorted := by simp
      endedBy := by simp
      le_due := by simp
      takesTurns := by simp [TakesTurns] }
  quiet := by simp [Quiet]
  rounds := ⟨[], rfl, by simp⟩

theorem Between.reset {s : Session σ} (h : Between sampling s) (target : Target σ) :
    match (s.command target .reset).1 with
    | .error _ => Between sampling (s.command target .reset).2
    | .ok _ => Cleared sampling (s.command target .reset).2 := by
  have horderly := h.orderly.command target .reset
  obtain ⟨hquiet, hlog⟩ := command_of_quiet h.quiet target .reset
  rcases hreset : s.command target .reset with ⟨_ | u, s'⟩
  · rw [hreset] at horderly hquiet hlog
    refine ⟨horderly, hquiet, ?_⟩
    rw [hlog]
    exact h.rounds.append (.refused sampling s.clock s'.clock)
  · rw [hreset] at horderly hquiet hlog
    exact ⟨horderly, hquiet, s.log, s.clock, h.rounds, hlog⟩

/-- Without a sampler, the body begins at the success of the reset. -/
theorem Cleared.amid {s : Session σ} (h : Cleared false s) :
    Amid false s.log s :=
  ⟨h.orderly, [], (List.append_nil _).symm, by simp, .quiet h.quiet (by simp)⟩

/-- With a sampler, the body begins when the sampler has been started. -/
theorem Cleared.startSampler {s : Session σ} (h : Cleared true s) (intervalMs : Nat) :
    Amid true (s.log ++ [(s.clock, .samplerStart)]) (s.startSampler intervalMs) := by
  refine ⟨h.orderly.startSampler h.quiet intervalMs, [], ?_, by simp, ?_⟩
  · rw [List.append_nil]
    exact log_note .samplerStart s
  · exact .live rfl rfl (Or.inr ⟨s.clock, rfl, Nat.le_refl _⟩)

theorem Cleared.between {s s' : Session σ} (h : Cleared false s) (h' : Amid false s.log s') :
    Between false s' := by
  obtain ⟨log, t, hrounds, hlog⟩ := h.rounds
  obtain ⟨body, hbody, hinner, hback⟩ := h'.body
  cases hback with
  | quiet quiet silent =>
    refine ⟨h'.orderly, quiet, ?_⟩
    rw [hbody, hlog, List.append_assoc]
    exact hrounds.append (.unsampled t s.clock hinner silent)

theorem Cleared.finishSampler {s s' : Session σ} (h : Cleared true s)
    (h' : Amid true (s.log ++ [(s.clock, .samplerStart)]) s') (target : Target σ) (graceMs : Nat) :
    Between true (s'.finishSampler target graceMs).2 := by
  obtain ⟨log, t, hrounds, hlog⟩ := h.rounds
  obtain ⟨body, hbody, hinner, hback⟩ := h'.body
  cases hback with
  | @live x rest samplers outcome used =>
    have hfinish := finishSampler_spec h'.orderly samplers outcome target graceMs
    obtain ⟨new, hnew, hasks⟩ := hfinish.log
    refine ⟨hfinish.orderly, hfinish.quiet, ?_⟩
    have hround : Round true ((t, .command .reset) :: (s.clock, .answer .reset true) ::
        (s.clock, .samplerStart) :: ((body ++ new) ++
          [((s'.finishSampler target graceMs).2.clock, .samplerEnd)])) := by
      refine .sampled t s.clock _ ?_ ?_
      · intro e he
        rcases List.mem_append.mp he with he | he
        · exact hinner e he
        · exact Event.isInner_of_isFetch (hasks.isFetch e he)
      · -- a sampler that has asked for nothing yet asks while it is waited for
        rcases used with ⟨time, hused⟩ | ⟨due, hready, hdue⟩
        · exact ⟨time, List.mem_append_left _ hused⟩
        · exact ⟨due, List.mem_append_right _
            (hasks.used due hready (Nat.le_trans hdue (Nat.le_add_right _ graceMs)))⟩
    have hall := hrounds.append hround
    rw [hnew, hbody, hlog]
    simpa using hall

/-- What a run leaves behind, where `rounds` are the events of its iterations. -/
structure Contained (sampling : Bool) (s : Session σ) (rounds : List (List (Nat × Event))) :
    Prop where
  log : s.log = rounds.flatten
  round : ∀ round ∈ rounds, Round sampling round
  sorted : s.log.Pairwise fun e e' => e.1 ≤ e'.1
  /-- Metrics are asked for between the success of a reset and the end of the iteration. -/
  window : ∀ round ∈ rounds, ∀ t metric, (t, .fetch metric) ∈ round →
    ∃ t₁ t₂, (t₁, .answer .reset true) ∈ round ∧ (t₂, .samplerEnd) ∈ round ∧ t₁ ≤ t ∧ t ≤ t₂
  silent : sampling = false → ∀ e ∈ s.log, ¬ e.2.isFetch
  used : sampling = true → ∀ round ∈ rounds, ∀ t, (t, .answer .reset true) ∈ round →
    ∃ t', (t', .fetch .used) ∈ round
  refused : ∀ round ∈ rounds, ∀ t, (t, .answer .reset false) ∈ round →
    ∀ e ∈ round, ¬ e.2.isFetch
  /-- However long one waits after the run, nothing more is asked for. -/
  ended : ∀ (target : Target σ) (time : Nat), (s.waitUntil target time).log = s.log

theorem Between.contained {s : Session σ} (h : Between sampling s) :
    ∃ rounds, s.Contained sampling rounds := by
  obtain ⟨rounds, hlog, hrounds⟩ := h.rounds
  have hsorted : s.log.Pairwise fun e e' => e.1 ≤ e'.1 := List.pairwise_reverse.mpr h.orderly.sorted
  refine ⟨rounds, hlog, hrounds, hsorted, ?_, ?_, ?_, ?_, ?_⟩
  · intro round hround t metric hfetch
    have hpart : round.Pairwise fun e e' => e.1 ≤ e'.1 := by
      rw [hlog, List.pairwise_flatten] at hsorted
      exact hsorted.1 round hround
    exact (hrounds round hround).window hpart hfetch
  · rintro rfl e he
    rw [hlog] at he
    obtain ⟨round, hround, he⟩ := List.mem_flatten.mp he
    exact (hrounds round hround).silent e he
  · rintro rfl round hround t hreset
    exact (hrounds round hround).used hreset
  · intro round hround t hreset
    exact (hrounds round hround).refused_silent hreset
  · intro target time
    rw [waitUntil_of_quiet h.quiet]
    rfl

/-! ### All moments -/

/--
What a session can be at a moment of its next action: a request may have changed the target and the
events, the sampler started last may have been asked to stop, and some time may have passed.
-/
inductive Moment (target : Target σ) (s : Session σ) : Session σ → Prop where
  | waiting (state : σ) (events : List (Nat × Event)) (time : Nat) :
    Moment target s ({ s with target := state, events := events }.waitUntil target time)
  | stopping (state : σ) (events : List (Nat × Event)) (time : Nat) :
    Moment target s
      ({ s with
          target := state
          events := events
          samplers := s.samplers.modifyHead (·.stop s.clock) }.waitUntil target time)

/-- At every moment of an action, at most one sampler is live. -/
theorem TakesTurns.liveCount_moment {s s' : Session σ} (h : s.TakesTurns)
    (hmoment : s.Moment target s') : s'.liveCount ≤ 1 := by
  cases hmoment with
  | waiting state events time =>
    have hturns : TakesTurns { s with target := state, events := events } := h
    exact (hturns.waitUntil target time).liveCount_le
  | stopping state events time =>
    refine TakesTurns.liveCount_le (TakesTurns.waitUntil ?_ target time)
    intro y hy
    rcases hs : s.samplers with _ | ⟨x, rest⟩
    · simp [hs] at hy
    · exact h.of_cons hs y (by simpa [hs] using hy)

end Session

namespace Bench

variable {σ : Type} {α : Type}

/-- An action that also takes note of the session after it. -/
def witnessed (x : StateM (Session σ) α) : StateM (Session σ × List (Session σ)) α :=
  fun (s, seen) => let (a, s) := x s; (a, (s, s :: seen))

/-- A session with a property, after sessions whose samplers took turns. -/
def Seen (P : Session σ → Prop) (y : Session σ × List (Session σ)) : Prop :=
  P y.1 ∧ ∀ s ∈ y.2, s.TakesTurns

theorem Ensures.witnessed {P : Session σ → Prop} {Q : α → Session σ → Prop}
    {x : StateM (Session σ) α} (h : Ensures P x Q) (hturns : ∀ a s, Q a s → s.TakesTurns) :
    Ensures (Seen P) (witnessed x) fun a => Seen (Q a) := by
  rintro ⟨s, seen⟩ ⟨hs, hseen⟩
  have hafter : Q (x s).1 (x s).2 := h s hs
  refine ⟨hafter, fun s' hs' => ?_⟩
  rcases List.mem_cons.mp hs' with rfl | hs'
  · exact hturns _ _ hafter
  · exact hseen s' hs'

/-- A witness changes nothing. -/
theorem witnessed_twin (bench : Bench (StateM (Session σ))) :
    Twin bench (bench.lift witnessed) fun s y => y.1 = s :=
  lift_twin witnessed Prod.fst (fun _ _ => ⟨rfl, rfl⟩) bench

variable (target : Target σ) (refusal : Nat → Option String)

theorem drain_witnessed (plan : Plan) (iteration : Iteration) {sampling : Bool}
    {base : List (Nat × Event)} :
    Keeps (Seen (Session.Amid sampling base))
      (((Session.bench target refusal).lift witnessed).drain plan iteration) := by
  have hturns : ∀ s : Session σ, s.Amid sampling base → s.TakesTurns :=
    fun s h => h.orderly.takesTurns
  have hclock := (Session.bench_clocked target refusal).lift (f := witnessed) Prod.fst
    fun _ _ => ⟨rfl, rfl⟩
  refine drain_keeps hclock ?_ ?_ ?_ ?_ plan iteration
  · exact Ensures.witnessed (fun s h => h) fun _ => hturns
  · intro ms
    exact Ensures.witnessed
      (fun s h => h.waitUntil target (Nat.le_add_right s.clock ms)) fun _ => hturns
  · intro c hc
    exact Ensures.witnessed (fun s h => h.command target hc) fun _ => hturns
  · exact Ensures.witnessed (fun s h => h.report target) fun _ => hturns

/-- **One iteration is one round more**, before the eyes of a witness. -/
theorem runOnce_witnessed (plan : Plan) (iteration : Iteration) :
    Keeps (Seen (Session.Between plan.sampleHeap))
      (((Session.bench target refusal).lift witnessed).runOnce plan iteration) := by
  have hreset : Ensures (Seen (Session.Between plan.sampleHeap))
      (((Session.bench target refusal).lift witnessed).command .reset) fun outcome => Seen fun s =>
        match outcome with
        | .error _ => s.Between plan.sampleHeap
        | .ok _ => s.Cleared plan.sampleHeap := by
    refine Ensures.witnessed (fun s h => h.reset target) ?_
    rintro (e | u) s hs
    · exact hs.orderly.takesTurns
    · exact hs.orderly.takesTurns
  refine hreset.bind fun outcome => ?_
  rcases outcome with e | u
  · exact fun y hy => hy
  · refine Ensures.bind (Q := fun _ => Seen (Session.Between plan.sampleHeap)) ?_
      fun _ y hy => hy
    rintro ⟨s, seen⟩ ⟨hcleared, hseen⟩
    rw [sampled]
    by_cases hs : plan.sampleHeap
    · rw [if_pos hs]
      rw [hs] at hcleared ⊢
      have hstart : Seen (Session.Amid true (s.log ++ [(s.clock, .samplerStart)]))
          (((Session.bench target refusal).lift witnessed).startSampler plan.samplerIntervalMs
            (s, seen)).2 := by
        have hamid := hcleared.startSampler plan.samplerIntervalMs
        refine ⟨hamid, fun s' hs' => ?_⟩
        rcases List.mem_cons.mp hs' with rfl | hs'
        · exact hamid.orderly.takesTurns
        · exact hseen s' hs'
      have hdrain := drain_witnessed target refusal plan iteration _ hstart
      have hfinish : Ensures
          (Seen (Session.Amid true (s.log ++ [(s.clock, .samplerStart)])))
          (((Session.bench target refusal).lift witnessed).finishSampler plan.joinGraceMs)
          fun _ => Seen (Session.Between true) :=
        Ensures.witnessed
          (fun s' h => hcleared.finishSampler h target plan.joinGraceMs)
          fun _ _ h => h.orderly.takesTurns
      exact hfinish _ hdrain
    · rw [if_neg hs]
      rw [Bool.eq_false_iff.mpr hs] at hcleared ⊢
      have hstart : Seen (Session.Amid false s.log) (s, seen) := ⟨hcleared.amid, hseen⟩
      have hdrain := drain_witnessed target refusal plan iteration _ hstart
      exact ⟨hcleared.between hdrain.1, hdrain.2⟩

theorem record_between (sampling : Bool) (result : RunResult) :
    Keeps (Session.Between sampling) ((Session.bench target refusal).record result) := by
  intro s h
  rcases hrefusal : refusal s.recorded.length with _ | reason
  · rw [Session.record_of_room hrefusal]
    exact ⟨⟨h.orderly.past, h.orderly.sorted, h.orderly.endedBy, h.orderly.le_due,
      h.orderly.takesTurns⟩, h.quiet, h.rounds⟩
  · rw [Session.record_of_refusal hrefusal]
    exact h

theorem runMatrix_witnessed (plan : Plan) :
    Keeps (Seen (Session.Between plan.sampleHeap))
      (((Session.bench target refusal).lift witnessed).runMatrix plan) := by
  have hturns : ∀ s : Session σ, s.Between plan.sampleHeap → s.TakesTurns :=
    fun s h => h.orderly.takesTurns
  refine runFrom_keeps ?_ (runOnce_witnessed target refusal plan) ?_ plan.countIterations 0
  · intro k iteration
    exact Ensures.witnessed (fun s h => h) fun _ => hturns
  · intro result
    exact Ensures.witnessed (record_between target refusal plan.sampleHeap result) fun _ => hturns

/--
**Samplers do not leak**, whatever the system under test answers and however the run ends: not into
the time after it, not from one iteration into another one, and no two are live at a moment.
-/
theorem runMatrix_contained (plan : Plan) (state : σ) :
    (∃ rounds, ((Session.bench target refusal).runMatrix plan { target := state }).2.Contained
      plan.sampleHeap rounds) ∧
    ∃ seen : List (Session σ),
      ((Session.bench target refusal).lift witnessed).runMatrix plan
          ({ target := state }, [{ target := state }])
        = (((Session.bench target refusal).runMatrix plan { target := state }).1,
            ((Session.bench target refusal).runMatrix plan { target := state }).2, seen) ∧
      ∀ s ∈ seen, ∀ s', s.Moment target s' → s'.liveCount ≤ 1 := by
  have hstart := Session.between_start plan.sampleHeap state
  have hseen : Seen (Session.Between plan.sampleHeap)
      (({ target := state } : Session σ), [({ target := state } : Session σ)]) := by
    refine ⟨hstart, fun s hs => ?_⟩
    obtain rfl := List.mem_singleton.mp hs
    exact hstart.orderly.takesTurns
  obtain ⟨hbetween, hturns⟩ := runMatrix_witnessed target refusal plan _ hseen
  -- what the witness sees is the run itself
  obtain ⟨houtcome, hsession⟩ := runMatrix_coupled
    (witnessed_twin (Session.bench target refusal)) (Session.bench_clocked target refusal) plan
    { target := state } ({ target := state }, [{ target := state }]) rfl
  rw [hsession] at hbetween
  refine ⟨hbetween.contained, _, Prod.ext houtcome (Prod.ext hsession rfl), ?_⟩
  intro s hs s' hmoment
  exact (hturns s hs).liveCount_moment hmoment

end Bench

end QueueDrain
