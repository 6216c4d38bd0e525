import QueueDrain.Proofs.Bench.Coupling
import QueueDrain.Proofs.Bench.View

/-!
A run as a list of steps, read off the plan and the script.

The steps of an iteration are its calls, in order, and what follows its last report: the verdict
that the work was not drained, or the row that is kept.  Each step carries the error on which a run
ends there, if there is one.  `Follows` says that a run does the steps in order up to the first one
that fails, and nothing more.

Design notes: how often an iteration asks for a report, and how its wait ends, is taken from a wait
in a session of its own (`Script.poll`), which starts afresh at the place where the script has
arrived.
-/

namespace QueueDrain

/-- The error of an outcome, if it is one. -/
def errorOf {α : Type} : Except Error α → Option Error
  | .ok _ => none
  | .error e => some e

theorem errorOf_map {α β : Type} (f : α → β) (x : Except Error α) :
    errorOf (x.map f) = errorOf x := by
  rcases x with e | a
  · rfl
  · rfl

theorem exists_of_map_eq_ok {α β : Type} {f : α → β} {x : Except Error α} {b : β}
    (h : x.map f = .ok b) : ∃ a, x = .ok a ∧ f a = b := by
  rcases x with e | a
  · cases h
  · exact ⟨a, rfl, Except.ok.inj h⟩

/-- A result without its statistics of the heap. -/
def RunResult.bare (result : RunResult) : RunResult := { result with memory := none }

/-- The iteration that a result belongs to. -/
def RunResult.iteration (result : RunResult) : Iteration := ⟨result.items, result.mode, result.run⟩

/-- What a run does in one step. -/
inductive Act where
  | call (c : Call)
  /-- The wait for the drained queue is given up. -/
  | verdict
  /-- A result is kept; what it says of the heap is left out. -/
  | keep (row : RunResult)

/-- One step of a run, and the error on which the run ends there. -/
structure Step where
  act : Act
  failure : Option Error

namespace Step

/-- The call that a step makes. -/
def call? (step : Step) : Option Call :=
  match step.act with
  | .call c => some c
  | _ => none

/-- The row that a step keeps. -/
def row? (step : Step) : Option RunResult :=
  match step.act with
  | .keep row => some row
  | _ => none

end Step

/-! ### Up to the first failure -/

/--
The calls, the kept rows and the error of a run that does some steps up to the first one that fails.
A step that fails makes its call, but keeps no row.
-/
inductive Follows : (steps : List Step) → (calls : List Call) → (rows : List RunResult) →
    (failure : Option Error) → Prop where
  | finished {steps : List Step} (done : ∀ x ∈ steps, x.failure = none) :
    Follows steps (steps.filterMap Step.call?) (steps.filterMap Step.row?) none
  | stopped {steps rest : List Step} {x : Step} {e : Error} (done : ∀ y ∈ steps, y.failure = none)
    (failure : x.failure = some e) :
    Follows (steps ++ x :: rest) ((steps ++ [x]).filterMap Step.call?) (steps.filterMap Step.row?)
      (some e)

namespace Follows

variable {steps steps' : List Step} {calls calls' : List Call} {rows rows' : List RunResult}
  {failure : Option Error} {e : Error}

theorem nil : Follows [] [] [] none := .finished (by simp)

theorem of_finished (h : Follows steps calls rows none) :
    (∀ x ∈ steps, x.failure = none) ∧ calls = steps.filterMap Step.call? ∧
      rows = steps.filterMap Step.row? := by
  cases h with
  | finished done => exact ⟨done, rfl, rfl⟩

/-- Steps after a failure are not done. -/
theorem stop (h : Follows steps calls rows (some e)) (steps' : List Step) :
    Follows (steps ++ steps') calls rows (some e) := by
  cases h with
  | stopped done failure =>
    rw [List.append_assoc, List.cons_append]
    exact .stopped done failure

theorem append (h : Follows steps calls rows none) (h' : Follows steps' calls' rows' failure) :
    Follows (steps ++ steps') (calls ++ calls') (rows ++ rows') failure := by
  obtain ⟨hdone, rfl, rfl⟩ := h.of_finished
  cases h' with
  | finished done =>
    rw [← List.filterMap_append, ← List.filterMap_append]
    refine .finished fun x hx => ?_
    rcases List.mem_append.mp hx with hx | hx
    · exact hdone x hx
    · exact done x hx
  | stopped done failure =>
    -- the first failure is where it was, after more steps that succeed
    rw [← List.append_assoc, ← List.filterMap_append, ← List.filterMap_append, ← List.append_assoc]
    refine .stopped (fun x hx => ?_) failure
    rcases List.mem_append.mp hx with hx | hx
    · exact hdone x hx
    · exact done x hx

theorem failed {x : Step} (failure : x.failure = some e) :
    Follows [x] ([x].filterMap Step.call?) [] (some e) := by
  have hstop : Follows ([] ++ x :: []) (([] ++ [x]).filterMap Step.call?)
    ([].filterMap Step.row?) (some e) := .stopped (by simp) failure
  exact hstop

theorem single (c : Call) (failure : Option Error) :
    Follows [⟨.call c, failure⟩] [c] [] failure := by
  cases failure with
  | none => exact .finished (by simp)
  | some e => exact failed rfl

theorem keep (row : RunResult) : Follows [⟨.keep row, none⟩] [] [row] none := .finished (by simp)

theorem keep_refused (row : RunResult) (e : Error) :
    Follows [⟨.keep row, some e⟩] [] [] (some e) := failed rfl

/-- The calls of a run are the first ones of all calls of its steps. -/
theorem calls_prefix (h : Follows steps calls rows failure) :
    calls <+: steps.filterMap Step.call? := by
  cases h with
  | finished done => exact List.prefix_refl _
  | @stopped steps rest x e done failure =>
    have hsplit : (steps ++ x :: rest).filterMap Step.call?
        = (steps ++ [x]).filterMap Step.call? ++ rest.filterMap Step.call? := by
      rw [← List.filterMap_append, List.append_assoc]
      rfl
    rw [hsplit]
    exact List.prefix_append _ _

end Follows

/-! ### The steps of a run -/

namespace Script

variable (script : Script) (refusal : Nat → Option String) (plan : Plan)

/--
How a wait ends that starts afresh, with the report number `first` as its first one, and how many
reports it asks for.
-/
def poll (first : Nat) : Except Error Report × Nat :=
  let (outcome, s) := (Session.bench script.target fun _ => none).wait plan.pollIntervalMs
    plan.timeoutMs { target := { report := first } }
  (outcome, s.calls.length)

/-- The position after an iteration whose calls have all been answered. -/
def advance (position : Position) : Position :=
  { position with
    reset := position.reset + 1
    seed := position.seed + 1
    dispatch := position.dispatch + 1
    report := position.report + (script.poll plan position.report).2 }

/-- So many requests for reports, from the one with the number `first` on. -/
def reportSteps (first count : Nat) : List Step :=
  (List.range' first count).map fun n =>
    ⟨.call .report, errorOf (script.report n).outcome⟩

/-- The calls of an iteration after its reset. -/
def drainSteps (position : Position) (iteration : Iteration) : List Step :=
  [⟨.call (.command (.seed iteration.items)),
      errorOf (script.command .seed position.seed).outcome⟩,
    ⟨.call (.command (.dispatch iteration.mode)),
      errorOf (script.command .dispatch position.dispatch).outcome⟩] ++
  script.reportSteps position.report (script.poll plan position.report).2

/-- All calls of an iteration. -/
def callSteps (position : Position) (iteration : Iteration) : List Step :=
  ⟨.call (.command .reset), errorOf (script.command .reset position.reset).outcome⟩ ::
    script.drainSteps plan position iteration

/-- What follows the last report of an iteration, which is to have the result with a number. -/
def lastStep (number : Nat) (position : Position) (iteration : Iteration) : Step :=
  match (script.poll plan position.report).1 with
  | .error e => ⟨.verdict, some e⟩
  | .ok report =>
    ⟨.keep
        { items := iteration.items
          mode := iteration.mode
          run := iteration.run
          report := report
          memory := none },
      (refusal number).map Error.io⟩

/-- The steps of iterations from a position of the script on, if nothing fails. -/
def steps (number : Nat) (position : Position) : List Iteration → List Step
  | [] => []
  | iteration :: iterations =>
    script.callSteps plan position iteration ++
      script.lastStep refusal plan number position iteration ::
      steps (number + 1) (script.advance plan position) iterations

/-- The calls of iterations from a position of the script on, if nothing fails. -/
def plannedCalls (position : Position) : List Iteration → List Call
  | [] => []
  | iteration :: iterations =>
    [.command .reset, .command (.seed iteration.items), .command (.dispatch iteration.mode)] ++
      List.replicate (script.poll plan position.report).2 .report ++
      plannedCalls (script.advance plan position) iterations

theorem reportSteps_succ (first count : Nat) :
    script.reportSteps first (count + 1)
      = script.reportSteps first count
        ++ [⟨.call .report, errorOf (script.report (first + count)).outcome⟩] := by
  rw [reportSteps, List.range'_1_concat, List.map_append]
  rfl

theorem filterMap_call?_reportSteps (first count : Nat) :
    (script.reportSteps first count).filterMap Step.call? = List.replicate count .report := by
  induction count with
  | zero => rfl
  | succ count ih =>
    rw [reportSteps_succ, List.filterMap_append, ih, List.replicate_succ']
    rfl

theorem call?_lastStep (number : Nat) (position : Position) (iteration : Iteration) :
    (script.lastStep refusal plan number position iteration).call? = none := by
  rw [lastStep]
  rcases (script.poll plan position.report).1 with e | report
  · rfl
  · rfl

theorem lastStep_of_result {position : Position} {result : RunResult}
    (hpoll : (script.poll plan position.report).1 = .ok result.report) (number : Nat) :
    script.lastStep refusal plan number position result.iteration
      = ⟨.keep result.bare, (refusal number).map Error.io⟩ := by
  rw [lastStep, hpoll]
  rfl

section

variable {script refusal plan} {number : Nat} {position : Position} {iteration : Iteration}
  {iterations : List Iteration} {calls calls' : List Call} {row : RunResult}
  {rows : List RunResult} {failure : Option Error} {e : Error}

theorem follows_of_stopped
    (h : Follows (script.callSteps plan position iteration ++
      [script.lastStep refusal plan number position iteration]) calls [] (some e)) :
    Follows (script.steps refusal plan number position (iteration :: iterations)) calls []
      (some e) := by
  rw [steps, List.append_cons]
  exact h.stop _

/-- A run stops because the result of an iteration cannot be kept. -/
theorem follows_of_refused (h : Follows (script.callSteps plan position iteration) calls [] none)
    (hlast : script.lastStep refusal plan number position iteration = ⟨.keep row, some e⟩) :
    Follows (script.steps refusal plan number position (iteration :: iterations)) calls []
      (some e) := by
  have hrefused := h.append (Follows.keep_refused row e)
  rw [List.append_nil] at hrefused
  rw [← hlast] at hrefused
  exact follows_of_stopped hrefused

/-- A run keeps the result of an iteration and goes on. -/
theorem follows_of_kept (h : Follows (script.callSteps plan position iteration) calls [] none)
    (hlast : script.lastStep refusal plan number position iteration = ⟨.keep row, none⟩)
    (hrest : Follows (script.steps refusal plan (number + 1) (script.advance plan position)
      iterations) calls' rows failure) :
    Follows (script.steps refusal plan number position (iteration :: iterations)) (calls ++ calls')
      (row :: rows) failure := by
  rw [steps, hlast]
  exact h.append ((Follows.keep row).append hrest)

end

/-- The calls of the steps of iterations. -/
theorem filterMap_call?_steps (number : Nat) (position : Position) (iterations : List Iteration) :
    (script.steps refusal plan number position iterations).filterMap Step.call?
      = script.plannedCalls plan position iterations := by
  induction iterations generalizing number position with
  | nil => rfl
  | cons iteration iterations ih =>
    -- the last step of an iteration makes no call
    rw [steps, plannedCalls, List.filterMap_append,
      List.filterMap_cons_none (call?_lastStep script refusal plan number position iteration), ih]
    rw [← filterMap_call?_reportSteps script position.report]
    rfl

end Script

end QueueDrain
