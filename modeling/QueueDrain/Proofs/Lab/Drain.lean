import QueueDrain.Bench.Basic
import QueueDrain.Lab.Basic

/-!
How a lab works off its jobs.

A report is a step of the simulation (`advance`), and a step moves the jobs in work on and takes up
the next batch.  So after k steps k batches have been taken up and all but the last one are done, as
far as there were jobs (`advanceAll_counts`); with a batch of at least one job, the work is done
first when one step more has been made than there are batches (`After.isDrained_iff`).
-/

namespace QueueDrain.Lab.Run

variable {batch now : Nat} {run : Run}

/-! ### Steps -/

/-- The end of a run is noted once, where it has been dispatched and no job is left; it changes
nothing else. -/
theorem close_cases (now : Nat) (run : Run) :
    (∃ started, run.startedAt = some started ∧ run.isDrained ∧ run.finishedAtMs = none ∧
      run.close now =
        { run with finishedAtMs := some now, drainTimeMs := some (now - started) }) ∨
      (run.startedAt.isSome → run.isDrained → run.finishedAtMs.isSome) ∧ run.close now = run := by
  rw [close]
  rcases hstarted : run.startedAt with _ | started
  · exact Or.inr ⟨nofun, rfl⟩
  · dsimp only
    by_cases hend : run.isDrained ∧ run.finishedAtMs = none
    · rw [if_pos hend]
      exact Or.inl ⟨started, rfl, hend.1, hend.2, rfl⟩
    · rw [if_neg hend]
      refine Or.inr ⟨fun _ hdrained => ?_, rfl⟩
      exact Option.isSome_iff_ne_none.mpr fun hnone => hend ⟨hdrained, hnone⟩

/-- Two states of a run, with no dispatch in between. -/
structure SameStart (run run' : Run) : Prop where
  id : run'.id = run.id
  mode : run'.mode = run.mode
  items : run'.items = run.items
  startedAt : run'.startedAt = run.startedAt
  startedAtMs : run'.startedAtMs = run.startedAtMs

theorem SameStart.trans {run' run'' : Run} (h : SameStart run run') (h' : SameStart run' run'') :
    SameStart run run'' where
  id := h'.id.trans h.id
  mode := h'.mode.trans h.mode
  items := h'.items.trans h.items
  startedAt := h'.startedAt.trans h.startedAt
  startedAtMs := h'.startedAtMs.trans h.startedAtMs

/-- One step: every job is counted once before and after it. -/
structure Steps (batch now : Nat) (run run' : Run) : Prop extends SameStart run run' where
  pending : run'.pending = run.pending - min batch run.pending
  processing : run'.processing = min batch run.pending
  done : run'.done = run.done + run.processing
  /-- Both stamps of an end are left as they were, or set together. -/
  finish : run'.finishedAtMs = run.finishedAtMs ∧ run'.drainTimeMs = run.drainTimeMs ∨
    run.finishedAtMs = none ∧ run'.finishedAtMs = some now ∧
      ∃ started, run.startedAt = some started ∧ run'.drainTimeMs = some (now - started)
  /-- The end is not missed. -/
  settles : run.startedAt.isSome → run'.isDrained → run'.finishedAtMs.isSome

theorem advance_of_mode (h : run.mode.isSome) (batch now : Nat) :
    Steps batch now run (run.advance batch now) := by
  obtain ⟨mode, hmode⟩ := Option.isSome_iff_exists.mp h
  have hadvance : run.advance batch now = (run.move batch).close now := by
    rw [advance, hmode]
  rw [hadvance]
  rcases close_cases now (run.move batch) with
    ⟨started, hstarted, hdrained, hnone, hclose⟩ | ⟨hsettles, hclose⟩
  · rw [hclose]
    exact ⟨⟨rfl, rfl, rfl, rfl, rfl⟩, rfl, rfl, rfl, .inr ⟨hnone, rfl, started, hstarted, rfl⟩,
      fun _ _ => rfl⟩
  · rw [hclose]
    exact ⟨⟨rfl, rfl, rfl, rfl, rfl⟩, rfl, rfl, rfl, .inl ⟨rfl, rfl⟩, hsettles⟩

theorem advance_of_mode_eq_none (h : run.mode = none) (batch now : Nat) :
    run.advance batch now = run := by
  rw [advance, h]

/-- The run after steps at these times. -/
def advanceAll (batch : Nat) (times : List Nat) (run : Run) : Run :=
  times.foldl (fun run now => run.advance batch now) run

theorem advanceAll_concat (batch : Nat) (times : List Nat) (now : Nat) (run : Run) :
    run.advanceAll batch (times ++ [now]) = (run.advanceAll batch times).advance batch now := by
  rw [advanceAll, List.foldl_append]
  rfl

/-! ### The closed form -/

/-- What a run has become after `k + 1` steps. -/
structure After (batch k : Nat) (start run : Run) : Prop extends SameStart start run where
  pending : run.pending = start.pending - min start.pending ((k + 1) * batch)
  processing : run.processing =
    min start.pending ((k + 1) * batch) - min start.pending (k * batch)
  done : run.done = start.done + start.processing + min start.pending (k * batch)

theorem After.advance {k : Nat} {start : Run} (hmode : start.mode.isSome)
    (h : After batch k start run) (now : Nat) :
    After batch (k + 1) start (run.advance batch now) := by
  have hstep := advance_of_mode (h.mode ▸ hmode) batch now
  have hmul : (k + 1 + 1) * batch = (k + 1) * batch + batch := Nat.succ_mul _ _
  have hle : k * batch ≤ (k + 1) * batch := Nat.mul_le_mul_right batch (Nat.le_succ k)
  refine ⟨h.toSameStart.trans hstep.toSameStart, ?_, ?_, ?_⟩
  · rw [hstep.pending, h.pending, hmul]
    omega
  · rw [hstep.processing, h.pending, hmul]
    omega
  · rw [hstep.done, h.done, h.processing]
    omega

/-- **After k + 1 steps** of a run that has been dispatched, k + 1 batches have been taken up and k
of them are done, as far as there were jobs. -/
theorem advanceAll_counts (h : run.mode.isSome) (batch : Nat) {times : List Nat} {k : Nat}
    (hlength : times.length = k + 1) : After batch k run (run.advanceAll batch times) := by
  induction k generalizing times with
  | zero =>
    obtain ⟨now, rfl⟩ := List.length_eq_one_iff.mp hlength
    have hstep := advance_of_mode h batch now
    refine ⟨hstep.toSameStart, ?_, ?_, ?_⟩
    · exact hstep.pending.trans (by rw [Nat.zero_add, Nat.one_mul, Nat.min_comm])
    · exact hstep.processing.trans (by
        rw [Nat.zero_add, Nat.one_mul, Nat.zero_mul, Nat.min_zero, Nat.sub_zero, Nat.min_comm])
    · exact hstep.done.trans (by rw [Nat.zero_mul, Nat.min_zero, Nat.add_zero])
  | succ k ih =>
    -- the first times make one step less, and the last one is the step that is added
    have hne : times ≠ [] := List.ne_nil_of_length_eq_add_one hlength
    obtain ⟨before, now, rfl⟩ : ∃ before now, times = before ++ [now] :=
      ⟨times.dropLast, times.getLast hne, (List.dropLast_concat_getLast hne).symm⟩
    rw [advanceAll_concat]
    refine (ih ?_).advance h now
    rw [List.length_append] at hlength
    exact Nat.succ.inj hlength

theorem isDrained_iff (run : Run) : run.isDrained ↔ run.pending = 0 ∧ run.processing = 0 :=
  decide_eq_true_iff

/-- After k + 1 steps nothing is left exactly if k batches were enough. -/
theorem After.isDrained_iff {k : Nat} {start : Run} (h : After batch k start run) :
    run.isDrained ↔ start.pending ≤ k * batch := by
  have hle : k * batch ≤ (k + 1) * batch := Nat.mul_le_mul_right batch (Nat.le_succ k)
  rw [Run.isDrained_iff, h.pending, h.processing]
  omega

/-! ### Commands -/

/-- What a command does to a run. -/
def obey (now : Nat) (run : Run) : Command → Run
  | .reset => run.reset
  | .seed items => run.seed items
  | .dispatch mode => run.start mode now

end QueueDrain.Lab.Run
