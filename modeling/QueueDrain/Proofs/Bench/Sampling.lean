import QueueDrain.Proofs.Bench.Containment
import QueueDrain.Proofs.Bench.View

/-!
Sampling the heap does not disturb the measurement.

A plan is run twice against the same script, without and with samples of the heap.  Both runs make
the same calls, with the same answers, and in every iteration at the same offsets from its reset
(`Paced`).  The second run has statistics of the heap, and after each iteration it may fall behind
by the time for which it waits for its sampler: by no more than the grace.

Design notes: while an iteration lasts, the second session is an `Echo` of the first one.  The
clocks differ by a lag, which does not change until the end of the sampler; so the two sessions are
`Similar`, and their drains are alike.
-/

namespace QueueDrain

/-- Results of which only the second one has statistics of the heap, and that agree otherwise. -/
structure SameButMemory (r r' : RunResult) : Prop where
  items : r'.items = r.items
  mode : r'.mode = r.mode
  run : r'.run = r.run
  report : r'.report = r.report
  none : r.memory = none
  some : r'.memory.isSome

/-- Calls at given offsets from a time. -/
def callsFrom (start : Nat) (calls : List (Nat × Call)) : List (Nat × Call) :=
  calls.map fun c => (start + c.1, c.2)

/--
Two lists of calls that agree iteration by iteration.  The calls of an iteration have the same
offsets from its reset; after it, the second list may fall behind by at most `graceMs`.  In all, it
has fallen behind by `lag`.
-/
inductive Paced (graceMs : Nat) : (first second : List (Nat × Call)) → (lag : Nat) → Prop where
  | start : Paced graceMs [] [] 0
  | iteration {first second : List (Nat × Call)} {lag : Nat}
    (before : Paced graceMs first second lag) (start : Nat) {calls : List (Nat × Call)}
    (rest : ∀ c ∈ calls, c.2 ≠ .command .reset) {delay : Nat} (hdelay : delay ≤ graceMs) :
    Paced graceMs (first ++ callsFrom start ((0, .command .reset) :: calls))
      (second ++ callsFrom (start + lag) ((0, .command .reset) :: calls)) (lag + delay)

theorem callsFrom_append (start : Nat) (calls calls' : List (Nat × Call)) :
    callsFrom start (calls ++ calls') = callsFrom start calls ++ callsFrom start calls' :=
  List.map_append

theorem map_snd_callsFrom (start : Nat) (calls : List (Nat × Call)) :
    (callsFrom start calls).map Prod.snd = calls.map Prod.snd := by
  rw [callsFrom, List.map_map]
  rfl

theorem Paced.map_snd {graceMs lag : Nat} {first second : List (Nat × Call)}
    (h : Paced graceMs first second lag) : second.map Prod.snd = first.map Prod.snd := by
  induction h with
  | start => rfl
  | iteration before start rest hdelay ih =>
    rw [List.map_append, List.map_append, ih, map_snd_callsFrom, map_snd_callsFrom]

/-! ### Views -/

/-- Views between two iterations. -/
structure Abreast (graceMs : Nat) (v w : View) : Prop where
  paced : ∃ lag, Paced graceMs v.calls w.calls lag ∧ w.clock = v.clock + lag
  control : w.control = v.control
  recorded : List.Forall₂ SameButMemory v.recorded w.recorded

/-- Views within an iteration that began at `start`, when the second one was behind by `lag`. -/
structure Echo (start lag : Nat) (first second : List (Nat × Call)) (v w : View) : Prop where
  le_clock : start ≤ v.clock
  clock : w.clock = v.clock + lag
  control : w.control = v.control
  recorded : List.Forall₂ SameButMemory v.recorded w.recorded
  calls : ∃ calls, (∀ c ∈ calls, c.2 ≠ .command .reset) ∧
    v.calls = first ++ callsFrom start ((0, .command .reset) :: calls) ∧
    w.calls = second ++ callsFrom (start + lag) ((0, .command .reset) :: calls)

namespace Echo

variable {graceMs start lag : Nat} {first second : List (Nat × Call)} {v w : View}

theorem wait (h : Echo start lag first second v w) (ms : Nat) :
    Echo start lag first second { v with clock := v.clock + ms }
      { w with clock := w.clock + ms } where
  le_clock := Nat.le_trans h.le_clock (Nat.le_add_right v.clock ms)
  clock := by
    have hclock := h.clock
    show w.clock + ms = v.clock + ms + lag
    omega
  control := h.control
  recorded := h.recorded
  calls := h.calls

theorem send (h : Echo start lag first second v w) {call : Call} (hcall : call ≠ .command .reset)
    (phase : Phase) (delayMs : Nat) :
    Echo start lag first second (v.send call phase delayMs) (w.send call phase delayMs) := by
  obtain ⟨calls, hrest, hv, hw⟩ := h.calls
  have hle := h.le_clock
  have hclock := h.clock
  refine ⟨?_, ?_, ?_, h.recorded, calls ++ [(v.clock - start, call)], ?_, ?_, ?_⟩
  · exact Nat.le_trans hle (Nat.le_add_right v.clock delayMs)
  · show w.clock + delayMs = v.clock + delayMs + lag
    omega
  · show w.control.add phase = v.control.add phase
    rw [h.control]
  · intro c hc
    rcases List.mem_append.mp hc with hc | hc
    · exact hrest c hc
    · obtain rfl := List.mem_singleton.mp hc
      exact hcall
  · show v.calls ++ [(v.clock, call)] = _
    have htime : v.clock = start + (v.clock - start) := by omega
    rw [← List.cons_append, callsFrom_append, ← List.append_assoc, ← hv]
    show _ = v.calls ++ [(start + (v.clock - start), call)]
    rw [← htime]
  · show w.calls ++ [(w.clock, call)] = _
    have htime : w.clock = start + lag + (v.clock - start) := by omega
    rw [← List.cons_append, callsFrom_append, ← List.append_assoc, ← hw]
    show _ = w.calls ++ [(start + lag + (v.clock - start), call)]
    rw [← htime]

/-- After an iteration the second run may have to wait for its sampler. -/
theorem abreast (h : Echo start lag first second v w)
    (hpaced : Paced graceMs first second lag) {delay : Nat}
    (hdelay : delay ≤ graceMs) : Abreast graceMs v { w with clock := w.clock + delay } := by
  obtain ⟨calls, hrest, hv, hw⟩ := h.calls
  refine ⟨⟨lag + delay, ?_, ?_⟩, h.control, h.recorded⟩
  · show Paced graceMs v.calls w.calls (lag + delay)
    rw [hv, hw]
    exact .iteration hpaced start hrest hdelay
  · show w.clock + delay = v.clock + (lag + delay)
    rw [h.clock, Nat.add_assoc]

end Echo

theorem Abreast.reset {graceMs : Nat} {v w : View} (h : Abreast graceMs v w) (delayMs : Nat) :
    ∃ start lag first second, Paced graceMs first second lag ∧
      Echo start lag first second (v.send (.command .reset) .reset delayMs)
        (w.send (.command .reset) .reset delayMs) := by
  obtain ⟨lag, hpaced, hclock⟩ := h.paced
  refine ⟨v.clock, lag, v.calls, w.calls, hpaced, ?_, ?_, ?_, h.recorded, [], by simp, rfl, ?_⟩
  · exact Nat.le_add_right v.clock delayMs
  · show w.clock + delayMs = v.clock + delayMs + lag
    omega
  · show w.control.add .reset = v.control.add .reset
    rw [h.control]
  · show w.calls ++ [(w.clock, _)] = _
    rw [hclock]
    rfl

/-! ### Sessions -/

namespace Bench

variable {script : Script} {refusal : Nat → Option String} {graceMs : Nat}

/-- Sessions within an iteration, the second one with a sampler. -/
def EchoAmid (start lag : Nat) (first second : List (Nat × Call)) (base : List (Nat × Event))
    (q s : Session Script.Position) : Prop :=
  Echo start lag first second q.view s.view ∧ s.Amid true base

/-- Within an iteration the second session does what the first one does, after a lag. -/
theorem echo_similar (script : Script) (refusal : Nat → Option String) (start lag : Nat)
    (first second : List (Nat × Call)) (base : List (Nat × Event)) :
    Similar (Session.bench script.target refusal) (Session.bench script.target refusal)
      (lag * 1000000) (EchoAmid start lag first second base) where
  now := by
    rintro q s ⟨hecho, hamid⟩
    refine ⟨?_, hecho, hamid⟩
    show Duration.ofMillis s.clock = ⟨q.clock * 1000000 + lag * 1000000⟩
    rw [show s.clock = q.clock + lag from hecho.clock, Duration.ofMillis, Nat.add_mul]
  sleep := by
    rintro ms q s ⟨hecho, hamid⟩
    refine ⟨rfl, ?_, hamid.waitUntil script.target (Nat.le_add_right s.clock ms)⟩
    show Echo _ _ _ _ (q.waitUntil script.target (q.clock + ms)).view
      (s.waitUntil script.target (s.clock + ms)).view
    rw [Session.view_waitUntil, Session.view_waitUntil]
    exact hecho.wait ms
  command := by
    rintro c hc q s ⟨hecho, hamid⟩
    have hcall : Call.command c ≠ .command .reset := fun h => hc (Call.command.inj h)
    refine ⟨?_, ?_, hamid.command script.target hc⟩
    · show (s.command script.target c).1 = (q.command script.target c).1
      rw [Session.command_outcome, Session.command_outcome, hecho.control]
    · show Echo _ _ _ _ (q.command script.target c).2.view (s.command script.target c).2.view
      rw [Session.view_command, Session.view_command, hecho.control]
      exact hecho.send hcall c.phase _
  report := by
    rintro q s ⟨hecho, hamid⟩
    refine ⟨?_, ?_, hamid.report script.target⟩
    · show (s.report script.target).1 = (q.report script.target).1
      rw [Session.report_outcome, Session.report_outcome, hecho.control]
    · show Echo _ _ _ _ (q.report script.target).2.view (s.report script.target).2.view
      rw [Session.view_report, Session.view_report, hecho.control]
      exact hecho.send (by simp) .report _

/-- Waiting for the sampler takes the second session no more than the grace. -/
theorem EchoAmid.finish {start lag : Nat} {first second : List (Nat × Call)}
    {base : List (Nat × Event)} {q s : Session Script.Position}
    (h : EchoAmid start lag first second base q s)
    (hpaced : Paced graceMs first second lag) :
    Abreast graceMs q.view (s.finishSampler script.target graceMs).2.view := by
  obtain ⟨hecho, hamid⟩ := h
  obtain ⟨x, hfinish⟩ := hamid.finishes script.target graceMs
  have hclock : s.view.clock + ((s.finishSampler script.target graceMs).2.clock - s.clock)
      = (s.finishSampler script.target graceMs).2.clock :=
    Nat.add_sub_cancel' hfinish.le_clock
  have habreast := hecho.abreast hpaced (Nat.sub_le_iff_le_add'.mpr hfinish.clock_le)
  rw [hclock] at habreast
  rw [Session.view_finishSampler]
  exact habreast

def AbreastBetween (graceMs : Nat) (q s : Session Script.Position) : Prop :=
  Abreast graceMs q.view s.view ∧ s.Between true

/-- Sessions at the success of a reset. -/
def EchoCleared (graceMs : Nat) (q s : Session Script.Position) : Prop :=
  (∃ start lag first second, Paced graceMs first second lag ∧
    Echo start lag first second q.view s.view) ∧ s.Cleared true

theorem reset_coupled (script : Script) (refusal : Nat → Option String) :
    Coupled (AbreastBetween graceMs) ((Session.bench script.target refusal).command .reset)
      ((Session.bench script.target refusal).command .reset) fun x y q s => y = x ∧
        match x with
        | .error _ => AbreastBetween graceMs q s
        | .ok _ => EchoCleared graceMs q s := by
  rintro q s ⟨habreast, hbetween⟩
  have houtcome : (s.command script.target .reset).1 = (q.command script.target .reset).1 := by
    rw [Session.command_outcome, Session.command_outcome, habreast.control]
  obtain ⟨start, lag, first, second, hpaced, hecho⟩ := habreast.reset
    (script.command .reset (q.view.control.get .reset)).delayMs
  have hafter := hbetween.reset script.target
  rw [houtcome] at hafter
  have hviews : Echo start lag first second (q.command script.target .reset).2.view
      (s.command script.target .reset).2.view := by
    rw [Session.view_command, Session.view_command, habreast.control]
    exact hecho
  refine ⟨houtcome, ?_⟩
  show match (q.command script.target .reset).1 with
    | .error _ => AbreastBetween graceMs _ _
    | .ok _ => EchoCleared graceMs _ _
  rcases hreset : (q.command script.target .reset).1 with e | u
  · -- a refused reset is the whole iteration
    rw [hreset] at hafter
    exact ⟨hviews.abreast hpaced (Nat.zero_le _), hafter⟩
  · rw [hreset] at hafter
    exact ⟨⟨start, lag, first, second, hpaced, hviews⟩, hafter⟩

/-- **An iteration goes alike** without and with samples of the heap. -/
theorem runOnce_abreast (script : Script) (refusal : Nat → Option String) (plan : Plan)
    (iteration : Iteration) :
    Coupled (AbreastBetween plan.joinGraceMs)
      ((Session.bench script.target refusal).runOnce { plan with sampleHeap := false } iteration)
      ((Session.bench script.target refusal).runOnce { plan with sampleHeap := true } iteration)
      fun x y q s => Matching SameButMemory x y ∧ AbreastBetween plan.joinGraceMs q s := by
  refine (reset_coupled script refusal).bind fun x y => Coupled.assuming ?_
  rintro rfl
  rcases y with e | u
  · exact Coupled.ret fun q s h => ⟨rfl, h⟩
  · refine Coupled.bind (Q := fun x y q s =>
      (y.1 = x.1 ∧ x.2 = none ∧ y.2.isSome) ∧ AbreastBetween plan.joinGraceMs q s) ?_ fun x y => ?_
    · rintro q s ⟨⟨start, lag, first, second, hpaced, hecho⟩, hcleared⟩
      -- the second session starts a sampler, which changes nothing in its view
      have hstart : EchoAmid start lag first second (s.log ++ [(s.clock, .samplerStart)]) q
          (s.startSampler plan.samplerIntervalMs) := by
        refine ⟨?_, hcleared.startSampler plan.samplerIntervalMs⟩
        rw [Session.view_startSampler]
        exact hecho
      obtain ⟨houtcome, hbody⟩ := drain_coupled
        (p := { plan with sampleHeap := false }) (q := { plan with sampleHeap := true })
        (echo_similar script refusal start lag first second _)
        (Session.bench_clocked script.target refusal) iteration rfl rfl _ _ hstart
      -- and in the end it waits for the sampler
      exact ⟨⟨houtcome, rfl, rfl⟩, hbody.finish hpaced,
        hcleared.finishSampler hbody.2 script.target plan.joinGraceMs⟩
    · refine Coupled.assuming ?_
      rintro ⟨hxy, hnone, hsome⟩
      refine Coupled.ret fun q s h => ⟨?_, h⟩
      obtain ⟨outcome, memory⟩ := x
      obtain ⟨outcome', memory'⟩ := y
      obtain rfl : outcome' = outcome := hxy
      rcases outcome' with e | report
      · exact rfl
      · exact ⟨rfl, rfl, rfl, rfl, hnone, hsome⟩

theorem record_abreast (script : Script) (refusal : Nat → Option String) {r r' : RunResult}
    (h : SameButMemory r r') :
    Coupled (AbreastBetween graceMs) ((Session.bench script.target refusal).record r)
      ((Session.bench script.target refusal).record r') (Alike (AbreastBetween graceMs)) := by
  rintro q s ⟨habreast, hbetween⟩
  have hafter := record_between script.target refusal true r' s hbetween
  -- the two places have the same number of results
  have hlength : s.recorded.length = q.recorded.length := habreast.recorded.length_eq.symm
  rcases hrefusal : refusal q.recorded.length with _ | reason
  · have hrefusal' : refusal s.recorded.length = none := by
      rw [hlength, hrefusal]
    rw [Session.record_of_room hrefusal'] at hafter ⊢
    rw [Session.record_of_room hrefusal]
    exact ⟨rfl, ⟨habreast.paced, habreast.control, .cons h habreast.recorded⟩, hafter⟩
  · have hrefusal' : refusal s.recorded.length = some reason := by
      rw [hlength, hrefusal]
    rw [Session.record_of_refusal hrefusal', Session.record_of_refusal hrefusal]
    exact ⟨rfl, habreast, hbetween⟩

end Bench

/--
**Sampling the heap does not disturb the measurement**: for any script of a target and any plan, the
run with samples makes the same calls as the run without them, in each iteration at the same offsets
from its reset, and has the same outcome apart from the statistics.  After each iteration it falls
behind by at most the grace.
-/
theorem sampling_undisturbing (script : Script) (refusal : Nat → Option String) (plan : Plan) :
    let quiet := script.run refusal { plan with sampleHeap := false }
    let sampled := script.run refusal { plan with sampleHeap := true }
    Matching (List.Forall₂ SameButMemory) quiet.1 sampled.1 ∧
      List.Forall₂ SameButMemory quiet.2.recorded sampled.2.recorded ∧
      sampled.2.calls.map Prod.snd = quiet.2.calls.map Prod.snd ∧
      ∃ lag, Paced plan.joinGraceMs quiet.2.calls sampled.2.calls lag ∧
        sampled.2.clock = quiet.2.clock + lag := by
  have hstart : Bench.AbreastBetween plan.joinGraceMs { target := {} } { target := {} } :=
    ⟨⟨⟨0, .start, rfl⟩, rfl, .nil⟩, Session.between_start true _⟩
  obtain ⟨houtcome, ⟨⟨lag, hpaced, hclock⟩, -, hrecorded⟩, -⟩ :=
    (Bench.runFrom_coupled (p := { plan with sampleHeap := false })
      (q := { plan with sampleHeap := true }) (fun k => rfl)
      (fun k iteration q s h => ⟨rfl, h⟩)
      (Bench.runOnce_abreast script refusal plan)
      (fun r r' h => Bench.record_abreast script refusal h) plan.countIterations 0 _ _ hstart)
  exact ⟨houtcome, hrecorded, hpaced.map_snd, lag, hpaced, hclock⟩

end QueueDrain
