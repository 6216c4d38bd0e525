import QueueDrain.Proofs.Bench.Log
import QueueDrain.Proofs.Heap.Prompt
import QueueDrain.Proofs.Lab.Answers

/-!
A session with a lab, step by step.

The target of a session is `Served` if its calls have the effects on a lab that Answers shows for a
client and its network.  What has been reached then (`Progress`) depends on nothing but the
commands, the reports and the pauses: a sampler changes nothing, and takes no time when it ends.
-/

namespace QueueDrain.Lab

/-- What a benchmark against a lab has reached. -/
structure Progress where
  clock : Nat
  run : Run
  calls : List Call
  /-- The results that have been kept, the last one first. -/
  recorded : List RunResult

namespace Progress

def pause (ms : Nat) (p : Progress) : Progress := { p with clock := p.clock + ms }

/-- After a command. -/
def obey (c : Command) (p : Progress) : Progress :=
  { p with run := p.run.obey p.clock c, calls := p.calls ++ [.command c] }

/-- After a report. -/
def step (batch : Nat) (p : Progress) : Progress :=
  { p with run := p.run.advance batch p.clock, calls := p.calls ++ [.report] }

def keep (result : RunResult) (p : Progress) : Progress :=
  { p with recorded := result :: p.recorded }

end Progress

/-- A target whose calls have the effects that they have on a lab. -/
structure Served (options : Options) (sends : Command → Prop) (target : Target Lab) : Prop where
  command {c : Command} (hsends : sends c) (hc : c.Fits) (time : Nat) (lab : Lab) :
    (target.command c time lab).1 = ⟨0, .ok ()⟩ ∧
      (target.command c time lab).2.run = lab.run.obey time c
  report {time : Nat} {lab : Lab} (h : (lab.run.advance options.drainPerReport time).Fits) :
    ∃ report, (lab.run.advance options.drainPerReport time).Shows options report ∧
      (target.report time lab).1 = ⟨0, .ok report⟩ ∧
      (target.report time lab).2.run = lab.run.advance options.drainPerReport time
  metric (metric : Heap.Metric) (time : Nat) (lab : Lab) :
    (target.metric metric time lab).1.delayMs = 0 ∧
      (target.metric metric time lab).1.sample ≠ .crash ∧
      (target.metric metric time lab).2.run = lab.run

/-- **A lab serves its client**, as far as the addresses of the requests are in order. -/
theorem served_client {options : Options} (h : options.IsQuiet) (hoptions : options.Fits)
    {client : Client} (hreport : client.urls.isTarget client.reportRequest.url) :
    Served options (fun c => client.urls.isTarget (client.commandRequest c).url)
      (client.target (network options client.baseUrl)) where
  command hsends hc _ _ := target_command h hsends hc
  report hfits := target_report h hoptions hreport hfits
  metric metric _ _ := target_metric h metric

/-- What a session has reached, while its samplers are not behind. -/
structure Reaches (s : Session Lab) (p : Progress) : Prop where
  clock : s.clock = p.clock
  run : s.target.run = p.run
  calls : s.calls.map (·.2) = p.calls
  recorded : s.recorded = p.recorded
  prompt : ∀ sampler ∈ s.samplers, sampler.loop.Prompt s.clock

variable {options : Options} {sends : Command → Prop} {target : Target Lab} {s : Session Lab}
  {p : Progress}

theorem Served.source_isPrompt (h : Served options sends target) : target.source.IsPrompt :=
  fun metric time x => ⟨(h.metric metric time x.1).1, (h.metric metric time x.1).2.1⟩

theorem Served.source_run (h : Served options sends target) (metric : Heap.Metric) (time : Nat)
    (x : Lab × List (Nat × Event)) : (target.source metric time x).2.1.run = x.1.run :=
  (h.metric metric time x.1).2.2

theorem prompt_advanceAll (h : Served options sends target) {time limit : Nat}
    (hle : time ≤ limit) {samplers : List Heap.Sampler}
    (hprompt : ∀ sampler ∈ samplers, sampler.loop.Prompt time) (x : Lab × List (Nat × Event)) :
    ∀ sampler ∈ (Session.advanceAll target limit samplers x).1, sampler.loop.Prompt limit := by
  induction samplers generalizing x with
  | nil => exact fun _ hmem => absurd hmem List.not_mem_nil
  | cons sampler samplers ih =>
    obtain ⟨hfirst, hrest⟩ := List.forall_mem_cons.mp hprompt
    exact List.forall_mem_cons.mpr ⟨hfirst.advance h.source_isPrompt hle x, ih hrest _⟩

namespace Reaches

theorem waitUntil (h : Served options sends target) (hs : Reaches s p) {time : Nat}
    (hle : p.clock ≤ time) : Reaches (s.waitUntil target time) { p with clock := time } where
  clock := rfl
  run := Session.waitUntil_keeps target (P := fun x => x.1.run = p.run)
    (fun metric time x hx => (h.source_run metric time x).trans hx) time hs.run
  calls := by
    rw [Session.calls_waitUntil]
    exact hs.calls
  recorded := hs.recorded
  prompt := prompt_advanceAll h (hs.clock ▸ hle) hs.prompt (s.target, s.events)

theorem waitUntil_now (h : Served options sends target) (hs : Reaches s p) :
    Reaches (s.waitUntil target s.clock) p := by
  have hwaited := hs.waitUntil h (Nat.le_refl p.clock)
  rw [← hs.clock] at hwaited
  have hsame : { p with clock := s.clock } = p := by rw [hs.clock]
  exact hsame ▸ hwaited

theorem pause (h : Served options sends target) (hs : Reaches s p) (ms : Nat) :
    Reaches (s.waitUntil target (s.clock + ms)) (p.pause ms) := by
  rw [hs.clock]
  exact hs.waitUntil h (Nat.le_add_right p.clock ms)

theorem note (hs : Reaches s p) (event : Event) :
    Reaches (s.note event) { p with calls := p.calls ++ event.call?.toList } where
  clock := hs.clock
  run := hs.run
  calls := by
    rw [Session.calls_note, List.map_append, hs.calls]
    rcases event.call? with _ | call <;> rfl
  recorded := hs.recorded
  prompt := hs.prompt

theorem note_of_no_call (hs : Reaches s p) (event : Event) (hcall : event.call? = none) :
    Reaches (s.note event) p := by
  have hnoted := hs.note event
  rw [hcall, Option.toList_none, List.append_nil] at hnoted
  exact hnoted

theorem withTarget (hs : Reaches s p) (lab : Lab) :
    Reaches { s with target := lab } { p with run := lab.run } :=
  ⟨hs.clock, rfl, hs.calls, hs.recorded, hs.prompt⟩

/-- An answer that takes no time only has to be waited for. -/
theorem await {α : Type} (h : Served options sends target) (hs : Reaches s p) (phase : Phase)
    (outcome : Except Error α) :
    (s.await target phase ⟨0, outcome⟩).1 = outcome ∧
      Reaches (s.await target phase ⟨0, outcome⟩).2 p := by
  refine ⟨rfl, ?_⟩
  rw [Session.await, Nat.add_zero]
  exact (hs.waitUntil_now h).note_of_no_call (.answer phase outcome.isOk) rfl

/-- **A command** that can be sent is obeyed at once. -/
theorem command (refusal : Nat → Option String) (h : Served options sends target)
    (hs : Reaches s p) {c : Command} (hsends : sends c) (hc : c.Fits) :
    ∃ s', (Session.bench target refusal).command c s = (.ok (), s') ∧ Reaches s' (p.obey c) := by
  obtain ⟨hreply, hrun⟩ := h.command hsends hc s.clock s.target
  have hafter : (target.command c s.clock s.target).2.run = p.run.obey p.clock c := by
    rw [hrun, hs.run, hs.clock]
  obtain ⟨hanswer, hsent⟩ := ((hs.note (.command c)).withTarget
    (target.command c s.clock s.target).2).await h c.phase (.ok ())
  rw [hafter, ← hreply] at hsent
  rw [← hreply] at hanswer
  exact ⟨(s.command target c).2, Prod.ext hanswer rfl, hsent⟩

/-- **A report** is a step. -/
theorem report (refusal : Nat → Option String) (h : Served options sends target)
    (hs : Reaches s p) (hfits : (p.run.advance options.drainPerReport p.clock).Fits) :
    ∃ report s', (p.run.advance options.drainPerReport p.clock).Shows options report ∧
      (Session.bench target refusal).report s = (.ok report, s') ∧
      Reaches s' (p.step options.drainPerReport) := by
  have hsame : s.target.run.advance options.drainPerReport s.clock =
      p.run.advance options.drainPerReport p.clock := by
    rw [hs.run, hs.clock]
  obtain ⟨report, hshows, hreply, hrun⟩ := h.report (hsame ▸ hfits)
  obtain ⟨hanswer, hasked⟩ := ((hs.note .report).withTarget
    (target.report s.clock s.target).2).await h .report (.ok report)
  rw [hrun, hsame, ← hreply] at hasked
  rw [← hreply] at hanswer
  exact ⟨report, (s.report target).2, hsame ▸ hshows, Prod.ext hanswer rfl, hasked⟩

theorem startSampler (hs : Reaches s p) (intervalMs : Nat) :
    Reaches (s.startSampler intervalMs) p where
  clock := hs.clock
  run := hs.run
  calls := (hs.note_of_no_call .samplerStart rfl).calls
  recorded := hs.recorded
  prompt := List.forall_mem_cons.mpr ⟨Heap.Loop.prompt_start intervalMs s.clock, hs.prompt⟩

/-- **A sampler ends** without taking time. -/
theorem finishSampler (h : Served options sends target) (hs : Reaches s p) (graceMs : Nat) :
    Reaches (s.finishSampler target graceMs).2 p := by
  rcases hsamplers : s.samplers with _ | ⟨sampler, samplers⟩
  · rw [Session.finishSampler, hsamplers]
    exact hs
  -- the last sampler is told to stop, and is done at once
  · have hprompt := hs.prompt
    rw [hsamplers] at hprompt
    obtain ⟨hfirst, hrest⟩ := List.forall_mem_cons.mp hprompt
    obtain ⟨htime, hjoined⟩ := Heap.Sampler.join_stop_of_prompt h.source_isPrompt hfirst graceMs
      (s.target, s.events)
    have hrun : ((sampler.stop s.clock).join target.source s.clock graceMs
        (s.target, s.events)).2.1.run = p.run :=
      Heap.Sampler.join_keeps (P := fun x : Lab × List (Nat × Event) => x.1.run = p.run)
        (fun metric time x hx => (h.source_run metric time x).trans hx) (sampler.stop s.clock)
        s.clock graceMs hs.run
    -- what it still asks for is no call, and changes nothing of the run
    have hfetched := Heap.Sampler.join_keeps (Session.fetched_source target s.events)
      (sampler.stop s.clock) s.clock graceMs (Session.fetched_refl (s.target, s.events))
    rw [Session.finishSampler, hsamplers]
    dsimp only
    rcases hjoin : (sampler.stop s.clock).join target.source s.clock graceMs (s.target, s.events)
      with ⟨join, lab, events⟩
    rw [hjoin] at htime hjoined hrun hfetched
    have hended : Reaches
        { s with target := lab, samplers := join.sampler :: samplers, events := events } p :=
      { clock := hs.clock
        run := hrun
        calls := (congrArg (List.map Prod.snd) (Session.calls_of_fetched hfetched)).trans hs.calls
        recorded := hs.recorded
        prompt := List.forall_mem_cons.mpr ⟨hjoined, hrest⟩ }
    dsimp only at htime ⊢
    rw [htime]
    exact (hended.waitUntil_now h).note_of_no_call .samplerEnd rfl

theorem keep (hs : Reaches s p) (result : RunResult) :
    Reaches { s with recorded := result :: s.recorded } (p.keep result) :=
  ⟨hs.clock, hs.run, hs.calls, congrArg (result :: ·) hs.recorded, hs.prompt⟩

end Reaches

end QueueDrain.Lab
