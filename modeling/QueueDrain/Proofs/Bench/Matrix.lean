import QueueDrain.Proofs.Bench.Poll
import QueueDrain.Proofs.Bench.Steps
import QueueDrain.Proofs.Plan.Iterations

/-!
The law of a run: which calls it makes, where it stops, and what it leaves.

`runMatrix_lawful` says that a run does the steps that the plan and the script determine, up to the
first one that fails; that it ends with the error of this step, unaltered; and that the rows it has
kept are the results of the iterations before.  Neither the samplers nor the times matter for this.

Design notes: an action `Performs` steps if it adds their calls to a view and ends with the failure
of the first one that fails.  Actions one after the other perform their steps one after the other
(`Performs.append`), so the law of an iteration is put together from the laws of its calls.
-/

namespace QueueDrain

def View.requests (v : View) : List Call := v.calls.map Prod.snd

/-- What happens between two views are steps, done up to the first failure; none keeps a row. -/
structure Performs (steps : List Step) (failure : Option Error) (v w : View) : Prop where
  recorded : w.recorded = v.recorded
  follows : ∃ calls, w.requests = v.requests ++ calls ∧ Follows steps calls [] failure

namespace Performs

variable {steps steps' : List Step} {failure : Option Error} {e : Error} {u v w : View}

theorem idle (hcalls : w.calls = v.calls) (hrecorded : w.recorded = v.recorded) :
    Performs [] none v w := by
  refine ⟨hrecorded, [], ?_, .nil⟩
  rw [View.requests, hcalls, List.append_nil]
  rfl

theorem send (call : Call) (failure : Option Error) (phase : Phase) (delayMs : Nat) (v : View) :
    Performs [⟨.call call, failure⟩] failure v (v.send call phase delayMs) := by
  refine ⟨rfl, [call], ?_, .single call failure⟩
  rw [View.requests, View.send, List.map_append]
  rfl

theorem verdict (e : Error) (v : View) : Performs [⟨.verdict, some e⟩] (some e) v v :=
  ⟨rfl, [], (List.append_nil _).symm, .failed rfl⟩

/-- Time that passes afterwards changes nothing. -/
theorem later (h : Performs steps failure v w) (time : Nat) :
    Performs steps failure v { w with clock := time } := ⟨h.recorded, h.follows⟩

theorem stop (h : Performs steps (some e) v w) (steps' : List Step) :
    Performs (steps ++ steps') (some e) v w := by
  obtain ⟨calls, hcalls, hfollows⟩ := h.follows
  exact ⟨h.recorded, calls, hcalls, hfollows.stop steps'⟩

theorem append (h : Performs steps none u v) (h' : Performs steps' failure v w) :
    Performs (steps ++ steps') failure u w := by
  obtain ⟨calls, hcalls, hfollows⟩ := h.follows
  obtain ⟨calls', hcalls', hfollows'⟩ := h'.follows
  refine ⟨h'.recorded.trans h.recorded, calls ++ calls', ?_, hfollows.append hfollows'⟩
  rw [hcalls', hcalls, List.append_assoc]

end Performs

namespace Script

/-! ### Waits -/

section

variable {script : Script} {intervalMs timeoutMs : Nat}

theorem errorOf_report {first n : Nat}
    (h : ∀ outcome, ¬ script.WaitEnds intervalMs timeoutMs first n outcome) :
    errorOf (script.report (first + n)).outcome = none := by
  rcases hanswer : (script.report (first + n)).outcome with e | report
  · exact absurd (.failed hanswer) (h _)
  · rfl

theorem polled_performs {count : Nat} {v : View}
    (h : ∀ n < count, errorOf (script.report (v.control.report + n)).outcome = none) :
    Performs (script.reportSteps v.control.report count) none v
      (script.polled intervalMs v count) := by
  induction count with
  | zero =>
    refine .idle ?_ rfl
    exact List.append_nil v.calls
  | succ n ih =>
    have hbefore := ih fun m hm => h m (by omega)
    have hsend := Performs.send .report none .report
      (script.report (v.control.report + n)).delayMs (script.polled intervalMs v n)
    rw [send_polled] at hsend
    -- a pause follows the fetch
    have hpause := hsend.later (v.clock + script.fetchStart intervalMs v.control.report (n + 1))
    rw [reportSteps_succ, h n (Nat.lt_succ_self n)]
    exact hbefore.append hpause

/-- A wait that has ended with a fetch: all others have not failed, and this one may have. -/
theorem answered_performs {last : Nat} {v : View} {outcome : Except Error Report}
    (hfirst : ∀ n < last, ∀ outcome,
      ¬ script.WaitEnds intervalMs timeoutMs v.control.report n outcome)
    (hends : script.WaitEnds intervalMs timeoutMs v.control.report last outcome) :
    Performs (script.reportSteps v.control.report (last + 1)) none v
        (script.answered intervalMs v last) ∨
      ∃ e, outcome = .error e ∧
        Performs (script.reportSteps v.control.report (last + 1)) (some e) v
          (script.answered intervalMs v last) := by
  have hbefore : Performs (script.reportSteps v.control.report last) none v
      (script.polled intervalMs v last) :=
    polled_performs fun n hn => errorOf_report (hfirst n hn)
  have hsend := fun failure => Performs.send .report failure .report
    (script.report (v.control.report + last)).delayMs (script.polled intervalMs v last)
  rw [send_polled] at hsend
  rw [reportSteps_succ]
  cases hends with
  | failed hanswer =>
    rw [hanswer]
    exact Or.inr ⟨_, rfl, hbefore.append (hsend _)⟩
  | drained hanswer hdrained =>
    rw [hanswer]
    exact Or.inl (hbefore.append (hsend none))
  | late hanswer hundrained hlate =>
    rw [hanswer]
    exact Or.inl (hbefore.append (hsend none))

end

variable (script : Script) (refusal : Nat → Option String)

/--
A wait asks for reports one after the other, and no further one when a request has failed; then it
ends with the error of that request.
-/
theorem wait_reports {intervalMs : Nat} (hpos : 0 < intervalMs) (timeoutMs : Nat)
    (s : Session Position) :
    let r := (Session.bench script.target refusal).wait intervalMs timeoutMs s
    ∃ count,
      r.2.view.control
          = { s.view.control with report := s.view.control.report + count } ∧
        r.2.view.calls.length = s.view.calls.length + count ∧
        (Performs (script.reportSteps s.view.control.report count) none s.view r.2.view ∨
          ∃ e, r.1 = .error e ∧
            Performs (script.reportSteps s.view.control.report count) (some e) s.view
              r.2.view) := by
  intro r
  obtain ⟨last, hfirst, hends, hview⟩ := wait_spec refusal hpos timeoutMs s
  have hview' : r.2.view = script.answered intervalMs s.view last := hview
  rw [hview']
  refine ⟨last + 1, rfl, ?_, answered_performs hfirst hends⟩
  simp [answered, polled]

/-- Sessions that have arrived at the same report, where the second one has made more calls. -/
def SameReport (lag base : Nat) (f s : Session Position) : Prop :=
  s.view.clock = f.view.clock + lag ∧ s.view.control.report = f.view.control.report ∧
    s.view.calls.length = base + f.view.calls.length

/-- Waits that start with the same report go alike, whatever came before them. -/
theorem sameReport_alike (lag base : Nat) :
    Bench.WaitsAlike (Session.bench script.target fun _ => none)
      (Session.bench script.target refusal) (lag * 1000000) (SameReport lag base) where
  now := by
    rintro f s hsame
    refine ⟨?_, hsame⟩
    show Duration.ofMillis s.clock = ⟨f.clock * 1000000 + lag * 1000000⟩
    rw [show s.clock = f.clock + lag from hsame.1, Duration.ofMillis, Nat.add_mul]
  sleep := by
    rintro ms f s ⟨hclock, hreport, hlength⟩
    refine ⟨rfl, ?_⟩
    show SameReport lag base (f.waitUntil script.target (f.clock + ms))
      (s.waitUntil script.target (s.clock + ms))
    rw [SameReport, Session.view_waitUntil, Session.view_waitUntil]
    refine ⟨?_, hreport, hlength⟩
    show s.view.clock + ms = f.view.clock + ms + lag
    omega
  report := by
    rintro f s ⟨hclock, hreport, hlength⟩
    constructor
    · show (s.report script.target).1 = (f.report script.target).1
      rw [Session.report_outcome, Session.report_outcome, hreport]
    · show SameReport lag base (f.report script.target).2 (s.report script.target).2
      rw [SameReport, Session.view_report, Session.view_report, hreport]
      refine ⟨?_, ?_, ?_⟩
      · simp only [View.send]
        omega
      · simp only [View.send, Position.add]
        omega
      · simp only [View.send, List.length_append, List.length_singleton]
        omega

/-- **A wait goes like one that starts afresh.** -/
theorem wait_performs (plan : Plan) (s : Session Position) :
    let r := (Session.bench script.target refusal).wait plan.pollIntervalMs plan.timeoutMs s
    let poll := script.poll plan s.view.control.report
    r.1 = poll.1 ∧
      r.2.view.control = { s.view.control with report := s.view.control.report + poll.2 } ∧
      (Performs (script.reportSteps s.view.control.report poll.2) none s.view r.2.view ∨
        ∃ e, r.1 = .error e ∧
          Performs (script.reportSteps s.view.control.report poll.2) (some e) s.view r.2.view) := by
  have hstart : SameReport s.view.clock s.view.calls.length
      { target := { report := s.view.control.report } } s :=
    ⟨(Nat.zero_add _).symm, rfl, rfl⟩
  obtain ⟨houtcome, -, -, hfresh⟩ := Bench.wait_coupled
    (script.sameReport_alike refusal s.view.clock s.view.calls.length)
    (Session.bench_clocked script.target fun _ => none) plan.pollIntervalMs_pos plan.timeoutMs _ _
    hstart
  obtain ⟨count, hcontrol, hlength, hperforms⟩ :=
    script.wait_reports refusal plan.pollIntervalMs_pos plan.timeoutMs s
  have hcount : count = (script.poll plan s.view.control.report).2 := by
    have hboth := hlength.symm.trans hfresh
    exact Nat.add_left_cancel hboth
  rw [hcount] at hcontrol hperforms
  exact ⟨houtcome, hcontrol, hperforms⟩

/-! ### Iterations -/

theorem command_performs (c : Command) (s : Session Position) :
    let r := (Session.bench script.target refusal).command c s
    Performs
      [⟨.call (.command c), errorOf (script.command c.phase (s.view.control.get c.phase)).outcome⟩]
      (errorOf r.1) s.view r.2.view ∧ r.2.view.control = s.view.control.add c.phase := by
  show Performs _ (errorOf (s.command script.target c).1) s.view
      (s.command script.target c).2.view ∧
    (s.command script.target c).2.view.control = s.view.control.add c.phase
  rw [Session.command_outcome, Session.view_command]
  exact ⟨.send _ _ _ _ _, rfl⟩

/-- A drain stops at its first failure, or it makes all calls and ends like the wait. -/
theorem drain_performs (plan : Plan) (iteration : Iteration) (s : Session Position) :
    let r := (Session.bench script.target refusal).drain plan iteration s
    let position := s.view.control
    (∃ e, r.1 = .error e ∧
      Performs (script.drainSteps plan position iteration) (some e) s.view r.2.view) ∨
    r.1 = (script.poll plan position.report).1 ∧
      Performs (script.drainSteps plan position iteration) none s.view r.2.view ∧
      r.2.view.control =
        { position with
          seed := position.seed + 1
          dispatch := position.dispatch + 1
          report := position.report + (script.poll plan position.report).2 } := by
  obtain ⟨hseed, hcontrol⟩ := script.command_performs refusal (.seed iteration.items) s
  rw [Bench.drain_apply]
  rcases hr : (Session.bench script.target refusal).command (.seed iteration.items) s
    with ⟨e | u, s₁⟩
  · rw [hr] at hseed
    exact Or.inl ⟨e, rfl, hseed.stop _⟩
  · rw [hr] at hseed hcontrol
    obtain ⟨hdispatch, hcontrol'⟩ :=
      script.command_performs refusal (.dispatch iteration.mode) s₁
    rw [hcontrol] at hdispatch hcontrol'
    dsimp only
    rcases hr' : (Session.bench script.target refusal).command (.dispatch iteration.mode) s₁
      with ⟨e | u', s₂⟩
    · rw [hr'] at hdispatch
      exact Or.inl ⟨e, rfl, hseed.append (hdispatch.stop _)⟩
    · rw [hr'] at hdispatch hcontrol'
      obtain ⟨houtcome, hwait, hperforms⟩ := script.wait_performs refusal plan s₂
      rw [hcontrol'] at houtcome hwait hperforms
      rcases hperforms with hdone | ⟨e, herror, hstop⟩
      · exact Or.inr ⟨houtcome, hseed.append (hdispatch.append hdone), hwait⟩
      · exact Or.inl ⟨e, herror, hseed.append (hdispatch.append hstop)⟩

/-- To a view, the samples of the heap are some work and some time. -/
theorem sampled_spec {α : Type} (plan : Plan) (work : StateM (Session Position) α)
    (s : Session Position) :
    let r := (Session.bench script.target refusal).sampled plan work s
    ∃ s₀ time, s₀.view = s.view ∧ r.1.1 = (work s₀).1 ∧ r.1.2.isSome = plan.sampleHeap ∧
      r.2.view = { (work s₀).2.view with clock := time } := by
  rw [Bench.sampled]
  by_cases hs : plan.sampleHeap
  · rw [if_pos hs]
    refine ⟨s.startSampler plan.samplerIntervalMs, _, Session.view_startSampler s _, rfl, ?_,
      Session.view_finishSampler script _ plan.joinGraceMs⟩
    rw [hs]
    rfl
  · rw [if_neg hs]
    refine ⟨s, (work s).2.clock, rfl, rfl, ?_, rfl⟩
    rw [Bool.eq_false_iff.mpr hs]
    rfl

/-- An iteration that has a result, between two states of a session. -/
structure Completes (plan : Plan) (s : Session Position) (result : RunResult)
    (s' : Session Position) : Prop where
  performs : Performs (script.callSteps plan s.view.control result.iteration) none s.view s'.view
  control : s'.view.control = script.advance plan s.view.control
  poll : (script.poll plan s.view.control.report).1 = .ok result.report
  memory : result.memory.isSome = plan.sampleHeap

/-- **An iteration** stops at its first failure, or it makes all its calls and has a result. -/
theorem runOnce_performs (plan : Plan) (iteration : Iteration) (s : Session Position) :
    let r := (Session.bench script.target refusal).runOnce plan iteration s
    let position := s.view.control
    match r.1 with
    | .error e => ∀ number,
      Performs (script.callSteps plan position iteration ++
        [script.lastStep refusal plan number position iteration]) (some e) s.view r.2.view
    | .ok result => script.Completes plan s result r.2 ∧ result.iteration = iteration := by
  obtain ⟨hreset, hcontrol⟩ := script.command_performs refusal .reset s
  rw [Bench.runOnce_apply]
  rcases hr : (Session.bench script.target refusal).command .reset s with ⟨e | u, s₁⟩
  · rw [hr] at hreset
    have hstop : ∀ number, Performs (script.callSteps plan s.view.control iteration ++
        [script.lastStep refusal plan number s.view.control iteration]) (some e) s.view s₁.view :=
      fun number => (hreset.stop (script.drainSteps plan s.view.control iteration)).stop _
    exact hstop
  · rw [hr] at hreset hcontrol
    dsimp only
    obtain ⟨s₀, time, hview, houtcome, hmemory, hafter⟩ := script.sampled_spec refusal plan
      ((Session.bench script.target refusal).drain plan iteration) s₁
    rcases hr' : (Session.bench script.target refusal).sampled plan
      ((Session.bench script.target refusal).drain plan iteration) s₁ with ⟨⟨outcome, memory⟩, s₂⟩
    rw [hr'] at houtcome hmemory hafter
    have hdrain := script.drain_performs refusal plan iteration s₀
    dsimp only at hcontrol houtcome hmemory hafter hdrain
    rw [hview, hcontrol, ← houtcome] at hdrain
    rcases hdrain with ⟨e, rfl, hstop⟩ | ⟨hpoll, hdone, hcontrol'⟩
    · have hall := (hreset.append hstop).later time
      rw [← hafter] at hall
      have hlast : ∀ number, Performs (script.callSteps plan s.view.control iteration ++
          [script.lastStep refusal plan number s.view.control iteration]) (some e) s.view
          s₂.view := fun number => hall.stop _
      exact hlast
    · have hall := (hreset.append hdone).later time
      rw [← hafter] at hall
      have hpoll' : (script.poll plan s.view.control.report).1 = outcome := hpoll.symm
      rcases outcome with e | report
      · -- all calls have succeeded, but the time was up
        have hlast : ∀ number, Performs (script.callSteps plan s.view.control iteration ++
            [script.lastStep refusal plan number s.view.control iteration]) (some e) s.view
            s₂.view := by
          intro number
          have hverdict : script.lastStep refusal plan number s.view.control iteration
              = ⟨.verdict, some e⟩ := by
            rw [lastStep, hpoll']
          rw [hverdict]
          exact hall.append (.verdict e s₂.view)
        exact hlast
      · refine ⟨⟨hall, ?_, hpoll', hmemory⟩, rfl⟩
        show s₂.view.control = script.advance plan s.view.control
        rw [hafter]
        exact hcontrol'

/-! ### Runs -/

/--
What a run of iterations from a position of the plan on does, between two states of a session;
`rows` are the results that it has kept, in order.
-/
structure Ran (plan : Plan) (iterations : List Iteration) (k : Nat) (s : Session Position)
    (rows : List RunResult) (outcome : Except Error (List RunResult)) (s' : Session Position) :
    Prop where
  recorded : s'.recorded = rows.reverse ++ s.recorded
  follows : ∃ calls, s'.view.requests = s.view.requests ++ calls ∧
    Follows (script.steps refusal plan s.recorded.length s.view.control iterations) calls
      (rows.map RunResult.bare) (errorOf outcome)
  /-- A run of the completed iterations alone has just these results. -/
  completed : ((Session.bench script.target refusal).runFrom plan rows.length k s).1 = .ok rows
  memory : ∀ row ∈ rows, row.memory.isSome = plan.sampleHeap
  finished : ∀ results, outcome = .ok results →
    results = rows ∧ rows.map RunResult.iteration = iterations

section

variable {script refusal} {plan : Plan} {iterations : List Iteration} {k : Nat}
  {s s₁ s' : Session Position} {result : RunResult} {rows : List RunResult}

/-- A run that ends with an error before it has kept a result. -/
theorem ran_of_error {calls : List Call} {e : Error} (hrecorded : s'.recorded = s.recorded)
    (hcalls : s'.view.requests = s.view.requests ++ calls)
    (hfollows : Follows (script.steps refusal plan s.recorded.length s.view.control iterations)
      calls [] (some e)) : script.Ran refusal plan iterations k s [] (.error e) s' := by
  refine ⟨hrecorded, ⟨calls, hcalls, hfollows⟩, rfl, by simp, ?_⟩
  intro results hresults
  cases hresults

theorem Completes.refused (h : script.Completes plan s result s₁) {reason : String}
    (hrefusal : refusal s.recorded.length = some reason) :
    script.Ran refusal plan (result.iteration :: iterations) k s [] (.error (.io reason)) s₁ := by
  obtain ⟨calls, hcalls, hfollows⟩ := h.performs.follows
  have hlast := script.lastStep_of_result refusal plan h.poll s.recorded.length
  rw [hrefusal] at hlast
  exact ran_of_error h.performs.recorded hcalls (follows_of_refused hfollows hlast)

theorem Completes.kept (h : script.Completes plan s result s₁)
    (hrefusal : refusal s.recorded.length = none) {outcome : Except Error (List RunResult)}
    (hran : script.Ran refusal plan iterations (k + 1)
      { s₁ with recorded := result :: s₁.recorded } rows outcome s')
    (hsucc : ((Session.bench script.target refusal).runFrom plan (rows.length + 1) k s).1
      = (Except.ok rows).map (result :: ·)) :
    script.Ran refusal plan (result.iteration :: iterations) k s (result :: rows)
      (outcome.map (result :: ·)) s' := by
  have hrecorded : s₁.recorded = s.recorded := h.performs.recorded
  obtain ⟨calls, hcalls, hfollows⟩ := h.performs.follows
  obtain ⟨calls', hcalls', hfollows'⟩ := hran.follows
  have hlast := script.lastStep_of_result refusal plan h.poll s.recorded.length
  rw [hrefusal] at hlast
  refine ⟨?_, ⟨calls ++ calls', ?_, ?_⟩, hsucc, ?_, ?_⟩
  · rw [hran.recorded, hrecorded]
    simp
  · rw [hcalls', ← List.append_assoc, ← hcalls]
    rfl
  · rw [errorOf_map]
    refine follows_of_kept hfollows hlast ?_
    rw [← h.control, ← hrecorded]
    exact hfollows'
  · intro row hrow
    rcases List.mem_cons.mp hrow with rfl | hrow
    · exact h.memory
    · exact hran.memory row hrow
  · intro results hresults
    obtain ⟨rest, hrest, rfl⟩ := exists_of_map_eq_ok hresults
    obtain ⟨rfl, hiterations⟩ := hran.finished rest hrest
    exact ⟨rfl, congrArg (result.iteration :: ·) hiterations⟩

end

/-- **A run of iterations** does their steps up to the first one that fails. -/
theorem runFrom_ran (plan : Plan) (n k : Nat) (s : Session Position)
    (hlength : plan.iterations.length = k + n) :
    ∃ rows, script.Ran refusal plan (plan.iterations.drop k) k s rows
      ((Session.bench script.target refusal).runFrom plan n k s).1
      ((Session.bench script.target refusal).runFrom plan n k s).2 := by
  induction n generalizing k s with
  | zero =>
    have hnil : plan.iterations.drop k = [] := List.drop_eq_nil_of_le (by omega)
    rw [hnil]
    refine ⟨[], rfl, ⟨[], (List.append_nil _).symm, .nil⟩, rfl, by simp, ?_⟩
    intro results hresults
    exact ⟨(Except.ok.inj hresults).symm, rfl⟩
  | succ n ih =>
    have hk : k < plan.iterations.length := by omega
    have hat : plan.iterationAt? k = some plan.iterations[k] := by
      rw [Plan.iterationAt?_eq_getElem?, List.getElem?_eq_getElem hk]
    have hone := script.runOnce_performs refusal plan plan.iterations[k] s
    have hsucc := fun m =>
      Bench.runFrom_succ_apply (Session.bench script.target refusal) plan m k hat s
    have hannounce :
        ((Session.bench script.target refusal).announce k plan.iterations[k] s).2 = s := rfl
    rw [List.drop_eq_getElem_cons hk, hsucc, hannounce]
    simp only [hannounce] at hsucc
    rcases hr : (Session.bench script.target refusal).runOnce plan plan.iterations[k] s
      with ⟨e | result, s₁⟩
    · -- the iteration has failed, and so has the run
      rw [hr] at hone
      have hstop := hone s.recorded.length
      obtain ⟨calls, hcalls, hfollows⟩ := hstop.follows
      exact ⟨[], ran_of_error hstop.recorded hcalls (follows_of_stopped hfollows)⟩
    · rw [hr] at hone hsucc
      obtain ⟨hcompletes, hiteration⟩ := hone
      have hrecorded : s₁.recorded = s.recorded := hcompletes.performs.recorded
      rw [← hiteration]
      dsimp only at hsucc ⊢
      rcases hrefusal : refusal s₁.recorded.length with _ | reason
      · -- the result is kept; what is left is a run by induction
        simp only [Session.record_of_room hrefusal] at hsucc ⊢
        rw [hrecorded] at hrefusal
        obtain ⟨rows, hran⟩ := ih (k + 1) { s₁ with recorded := result :: s₁.recorded } (by omega)
        refine ⟨result :: rows, hcompletes.kept hrefusal hran ?_⟩
        rw [hsucc, hran.completed]
      · rw [Session.record_of_refusal hrefusal]
        rw [hrecorded] at hrefusal
        exact ⟨[], hcompletes.refused hrefusal⟩

end Script

/-- What a run of a plan against a script does, from its start to its end. -/
structure Lawful (script : Script) (refusal : Nat → Option String) (plan : Plan)
    (outcome : Except Error (List RunResult)) (s : Session Script.Position) : Prop where
  /-- The run does the steps up to the first one that fails, and ends with its error. -/
  follows : Follows (script.steps refusal plan 0 {} plan.iterations) s.view.requests
    (s.recorded.reverse.map RunResult.bare) (errorOf outcome)
  calls_prefix : s.view.requests <+: script.plannedCalls plan {} plan.iterations
  /-- The kept results are those of the first iterations, in order. -/
  completed : ((Session.bench script.target refusal).runFrom plan s.recorded.length 0
    { target := {} }).1 = .ok s.recorded.reverse
  memory : ∀ row ∈ s.recorded, row.memory.isSome = plan.sampleHeap
  /-- If nothing fails, the results are the kept ones, one for each iteration. -/
  finished : ∀ results, outcome = .ok results →
    results = s.recorded.reverse ∧ results.map RunResult.iteration = plan.iterations

/-- **The law of a run**, whatever fails and wherever. -/
theorem runMatrix_lawful (script : Script) (refusal : Nat → Option String) (plan : Plan) :
    Lawful script refusal plan (script.run refusal plan).1 (script.run refusal plan).2 := by
  obtain ⟨rows, hran⟩ := script.runFrom_ran refusal plan plan.countIterations 0 { target := {} }
    (by rw [Plan.length_iterations, Nat.zero_add])
  have hrecorded : rows = (script.run refusal plan).2.recorded.reverse := by
    rw [Script.run, Bench.runMatrix, hran.recorded]
    simp
  obtain ⟨calls, hcalls, hfollows⟩ := hran.follows
  obtain rfl : calls = (script.run refusal plan).2.view.requests := hcalls.symm
  rw [List.drop_zero] at hfollows
  rw [hrecorded] at hfollows
  have hprefix := hfollows.calls_prefix
  rw [Script.filterMap_call?_steps] at hprefix
  have hcompleted := hran.completed
  rw [hrecorded, List.length_reverse] at hcompleted
  refine ⟨hfollows, hprefix, hcompleted, ?_, ?_⟩
  · intro row hrow
    refine hran.memory row ?_
    rw [hrecorded]
    exact List.mem_reverse.mpr hrow
  · intro results hresults
    obtain ⟨rfl, hiterations⟩ := hran.finished results hresults
    exact ⟨hrecorded, hiterations⟩

end QueueDrain
