import Mathlib.Algebra.Order.Floor.Div
import QueueDrain.Proofs.Lab.History

/-!
How many steps a run takes.

A step finishes the jobs in work and takes up the next batch, so the jobs that were pending at first
are taken up one batch a step, and each batch is done one step after it was taken up (`Run.After`).
That makes one step for each batch and one more (`Run.isDrained_advanceAll_iff`), unless the batches
are empty, and then the run never ends (`Run.not_isDrained_advanceAll`).

* `Run.Draining`: how a run goes on from any state that it may be in;
* `Run.draining`: this is so for all runs, whatever the size of a batch is.
-/

namespace QueueDrain.Lab.Run

variable {batch : Nat} {run : Run}

/-- Nothing happens to a run that has not been dispatched. -/
theorem advanceAll_of_mode_eq_none (h : run.mode = none) (batch : Nat) (times : List Nat) :
    run.advanceAll batch times = run := by
  induction times with
  | nil => rfl
  | cons now times ih =>
    rw [advanceAll, List.foldl_cons, advance_of_mode_eq_none h]
    exact ih

/-- Steps move jobs, and neither add nor lose any. -/
theorem After.jobs {k : Nat} {start : Run} (h : After batch k start run) :
    run.jobs = start.jobs := by
  have hle : k * batch ≤ (k + 1) * batch := Nat.mul_le_mul_right batch (Nat.le_succ k)
  rw [Run.jobs, Run.jobs, h.pending, h.processing, h.done]
  omega

/-- Reports that are served make a step each. -/
theorem run_of_reports {options : Options} {lab : Lab} {requests : List Request}
    (h : ∀ request ∈ requests, request.deed options = .report) :
    (requests.foldl (fun lab request => (lab.answer options request).2) lab).run =
      lab.run.advanceAll options.drainPerReport (requests.map (·.time)) := by
  induction requests generalizing lab with
  | nil => rfl
  | cons request requests ih =>
    obtain ⟨hrequest, hrequests⟩ := List.forall_mem_cons.mp h
    rw [List.foldl_cons, ih hrequests, answer_run, hrequest]
    rfl

/-- **A run has ended after one step for each batch and one more**, and not before. -/
theorem isDrained_advanceAll_iff (h : run.mode.isSome) (hbatch : 0 < batch)
    (hrun : ¬run.isDrained) (times : List Nat) :
    (run.advanceAll batch times).isDrained ↔ run.pending ⌈/⌉ batch + 1 ≤ times.length := by
  cases hlength : times.length with
  | zero =>
    obtain rfl := List.length_eq_zero_iff.mp hlength
    exact iff_of_false hrun (Nat.not_succ_le_zero _)
  | succ k =>
    rw [(advanceAll_counts h batch hlength).isDrained_iff, Nat.succ_le_succ_iff,
      ceilDiv_le_iff_le_mul hbatch, Nat.mul_comm]

/-- With empty batches no pending job is ever taken up. -/
theorem not_isDrained_advanceAll (h : run.mode.isSome) (hpending : 0 < run.pending)
    (times : List Nat) : ¬(run.advanceAll 0 times).isDrained := by
  cases hlength : times.length with
  | zero =>
    obtain rfl := List.length_eq_zero_iff.mp hlength
    rw [advanceAll, List.foldl_nil, isDrained_iff]
    exact fun hdrained => Nat.ne_of_gt hpending hdrained.1
  | succ k =>
    rw [(advanceAll_counts h 0 hlength).isDrained_iff, Nat.mul_zero]
    exact Nat.not_le.mpr hpending

/-- How a run goes on with steps alone, at whatever times they are made. -/
structure Draining (batch : Nat) (run : Run) : Prop where
  /-- After the first step and each one that follows the jobs are where the batches have brought
  them; the dispatch and the number of the run stay. -/
  counts : run.mode.isSome → ∀ k times, times.length = k + 1 →
    After batch k run (run.advanceAll batch times)
  /-- No sum of jobs ever exceeds what there was at first. -/
  jobs : ∀ times, (run.advanceAll batch times).jobs = run.jobs
  /-- What is not drained yet is drained from one step on, which is the one after the last batch. -/
  drained_iff : run.mode.isSome → 0 < batch → ¬run.isDrained → ∀ times,
    (run.advanceAll batch times).isDrained ↔ run.pending ⌈/⌉ batch + 1 ≤ times.length
  /-- Empty batches get nowhere. -/
  never : run.mode.isSome → 0 < run.pending → ∀ times, ¬(run.advanceAll 0 times).isDrained
  /-- Before a dispatch nothing happens. -/
  idle : run.mode = none → ∀ times, run.advanceAll batch times = run
  /-- In a lab the steps are the reports that are served, with nothing else in between. -/
  reports : ∀ (options : Options) (lab : Lab) (requests : List Request),
    options.drainPerReport = batch → lab.run = run →
    (∀ request ∈ requests, request.deed options = .report) →
    (requests.foldl (fun lab request => (lab.answer options request).2) lab).run =
      run.advanceAll batch (requests.map (·.time))

/-- **Where the jobs of a run are after any number of steps**, and when there are none left. -/
theorem draining (batch : Nat) (run : Run) : Draining batch run where
  counts h _ _ hlength := advanceAll_counts h batch hlength
  jobs times := by
    cases hmode : run.mode with
    | none => rw [advanceAll_of_mode_eq_none hmode]
    | some mode =>
      cases hlength : times.length with
      | zero =>
        obtain rfl := List.length_eq_zero_iff.mp hlength
        rfl
      | succ k => exact (advanceAll_counts (by rw [hmode]; rfl) batch hlength).jobs
  drained_iff h hbatch hrun times := isDrained_advanceAll_iff h hbatch hrun times
  never h hpending times := not_isDrained_advanceAll h hpending times
  idle h times := advanceAll_of_mode_eq_none h batch times
  reports options lab requests hbatch hrun hrequests := by
    rw [← hbatch, ← hrun]
    exact run_of_reports hrequests

/-- A run with jobs in work already, whose last batch is not a full one. -/
def halfway : Run where
  id := 3
  mode := some .async
  items := 350
  pending := 250
  processing := 40
  done := 60
  startedAt := some 1000
  startedAtMs := some 1000

theorem draining_halfway : halfway.mode.isSome ∧ ¬halfway.isDrained ∧
    After 100 2 halfway (halfway.advanceAll 100 [2000, 3000, 4000]) ∧
    ∀ times, (halfway.advanceAll 100 times).isDrained ↔ 4 ≤ times.length := by
  refine ⟨rfl, by decide, (draining 100 halfway).counts rfl 2 _ rfl, fun times => ?_⟩
  have hbatches : halfway.pending ⌈/⌉ 100 + 1 = 4 := by decide
  rw [(draining 100 halfway).drained_iff rfl (by decide) (by decide) times, hbatches]

end QueueDrain.Lab.Run
