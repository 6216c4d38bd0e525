import QueueDrain.Bench.Script
import QueueDrain.Proofs.Bench.Log

/-!
Sessions with a script, without what concerns the samplers.

The `view` of a session is its clock, the number of answered calls of each phase, the calls, and the
kept results.  What the benchmark does to a view depends on nothing but the view and the script: the
answers and delays of the calls are not touched by requests for metrics, and waiting for a sampler
changes the clock only (`view_finishSampler`).
-/

namespace QueueDrain

namespace Script.Position

/-- The position apart from the metrics. -/
def control (position : Position) : Position := { position with metrics := {} }

@[simp] theorem get_control (position : Position) (phase : Phase) :
    position.control.get phase = position.get phase := by
  cases phase <;> rfl

@[simp] theorem control_add (position : Position) (phase : Phase) :
    (position.add phase).control = position.control.add phase := by
  cases phase <;> rfl

end Script.Position

/-- What of a session with a script does not depend on its samplers. -/
structure View where
  clock : Nat
  /-- The position in the script, with no metrics. -/
  control : Script.Position
  calls : List (Nat × Call)
  /-- The results that have been kept, the last one first. -/
  recorded : List RunResult

/-- The view after a call of a phase that takes some time. -/
def View.send (call : Call) (phase : Phase) (delayMs : Nat) (v : View) : View :=
  { v with
    clock := v.clock + delayMs
    control := v.control.add phase
    calls := v.calls ++ [(v.clock, call)] }

namespace Session

variable (script : Script) (s : Session Script.Position)

def view (s : Session Script.Position) : View where
  clock := s.clock
  control := s.target.control
  calls := s.calls
  recorded := s.recorded

theorem control_waitUntil (time : Nat) :
    (s.waitUntil script.target time).target.control = s.target.control :=
  waitUntil_keeps script.target (P := fun x => x.1.control = s.target.control)
    (fun _ _ _ h => h) time rfl

theorem view_waitUntil (time : Nat) :
    (s.waitUntil script.target time).view = { s.view with clock := time } := by
  rw [view, control_waitUntil, calls_waitUntil]
  rfl

theorem view_note {event : Event} (h : event.call? = none) : (s.note event).view = s.view := by
  rw [view, calls_note, h, Option.map_none, Option.toList_none, List.append_nil]
  rfl

theorem view_await {α : Type} (phase : Phase) (reply : Reply α) :
    (s.await script.target phase reply).2.view
      = { s.view with clock := s.clock + reply.delayMs } := by
  rw [await, view_note _ rfl, view_waitUntil]

theorem view_request {α : Type} {event : Event} {call : Call} (hcall : event.call? = some call)
    (phase : Phase) (reply : Reply α) {position : Script.Position}
    (hposition : position.control = s.target.control.add phase) :
    ({ s.note event with target := position }.await script.target phase reply).2.view
      = s.view.send call phase reply.delayMs := by
  rw [view_await]
  show View.mk _ position.control (s.note event).calls _ = _
  rw [hposition, calls_note, hcall]
  rfl

theorem command_outcome (c : Command) :
    (s.command script.target c).1
      = (script.command c.phase (s.view.control.get c.phase)).outcome := by
  rw [show s.view.control.get c.phase = s.target.get c.phase from
    Script.Position.get_control s.target c.phase]
  rfl

theorem view_command (c : Command) :
    (s.command script.target c).2.view
      = s.view.send (.command c) c.phase
          (script.command c.phase (s.view.control.get c.phase)).delayMs := by
  rw [show s.view.control.get c.phase = s.target.get c.phase from
    Script.Position.get_control s.target c.phase]
  exact view_request script s rfl c.phase _ (Script.Position.control_add s.target c.phase)

theorem report_outcome :
    (s.report script.target).1 = (script.report s.view.control.report).outcome := rfl

theorem view_report :
    (s.report script.target).2.view
      = s.view.send .report .report (script.report s.view.control.report).delayMs :=
  view_request script s rfl .report _ (Script.Position.control_add s.target .report)

theorem view_startSampler (intervalMs : Nat) : (s.startSampler intervalMs).view = s.view :=
  view_note s rfl

/-- Whatever a sampler asks for until its end, only the clock of the view changes. -/
theorem view_finishSampler (graceMs : Nat) :
    (s.finishSampler script.target graceMs).2.view
      = { s.view with clock := (s.finishSampler script.target graceMs).2.clock } := by
  rw [finishSampler]
  rcases hs : s.samplers with _ | ⟨x, rest⟩
  · rfl
  · dsimp only
    have hcontrol : ((x.stop s.clock).join script.target.source s.clock graceMs
        (s.target, s.events)).2.1.control = s.target.control :=
      Heap.Sampler.join_keeps
        (P := fun y : Script.Position × List (Nat × Event) => y.1.control = s.target.control)
        (fun _ _ _ h => h) (x.stop s.clock) s.clock graceMs rfl
    have hfetched := Heap.Sampler.join_keeps (fetched_source script.target s.events)
      (x.stop s.clock) s.clock graceMs (fetched_refl (s.target, s.events))
    -- neither the position nor the calls have changed before the end is noted
    rcases hjoin : (x.stop s.clock).join script.target.source s.clock graceMs (s.target, s.events)
      with ⟨join, position, events⟩
    rw [hjoin] at hcontrol hfetched
    have hview : Session.view
        { s with target := position, samplers := join.sampler :: rest, events := events }
          = s.view := by
      have hcalls : Session.calls
          { s with target := position, samplers := join.sampler :: rest, events := events }
            = s.calls := calls_of_fetched hfetched
      rw [view, hcalls]
      show View.mk _ position.control _ _ = _
      rw [hcontrol]
      rfl
    dsimp only
    rw [view_note _ rfl, view_waitUntil, hview]
    rfl

end Session

/-- A run of a plan against a target that follows a script from its start. -/
def Script.run (script : Script) (refusal : Nat → Option String) (plan : Plan) :
    Except Error (List RunResult) × Session Script.Position :=
  (Session.bench script.target refusal).runMatrix plan { target := {} }

end QueueDrain
