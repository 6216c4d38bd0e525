import Mathlib.Algebra.Order.Floor.Div
import QueueDrain.Proofs.Bench.Coupling
import QueueDrain.Proofs.Bench.Poll
import QueueDrain.Proofs.Lab.Session

/-!
How a wait at a lab ends.

The n-th report of a wait, counted from zero, comes after n pauses, and is the first one that shows
no jobs if the jobs make n batches.  So a wait has as many pauses as there are batches, unless the
report before that is late already (`pauses`): by induction on its rounds, a look finds nothing
until then, and ends the wait then (`polls_ends`).
-/

namespace QueueDrain.Lab

/-! ### Time -/

variable (plan : Plan) (options : Options)

/-- Whether a wait for so many jobs ends before its time is up. -/
def InTime (load : Nat) : Prop :=
  (load ⌈/⌉ options.drainPerReport - 1) * plan.pollIntervalMs ≤ plan.timeoutMs

instance (load : Nat) : Decidable (InTime plan options load) := Nat.decLe _ _

/-- The pauses of a wait for so many jobs: as many as there are batches, unless the time is up. -/
def pauses (load : Nat) : Nat :=
  min (load ⌈/⌉ options.drainPerReport) (plan.timeoutMs / plan.pollIntervalMs + 1)

/-- The time of a wait for so many jobs. -/
def waitMs (load : Nat) : Nat := pauses plan options load * plan.pollIntervalMs

variable {plan options}

theorem inTime_iff (hpos : 0 < plan.pollIntervalMs) (load : Nat) :
    InTime plan options load ↔
      load ⌈/⌉ options.drainPerReport ≤ plan.timeoutMs / plan.pollIntervalMs + 1 := by
  rw [InTime, ← Nat.le_div_iff_mul_le hpos, Nat.sub_le_iff_le_add]

theorem lt_batches_iff (hbatch : 0 < options.drainPerReport) (n load : Nat) :
    n < load ⌈/⌉ options.drainPerReport ↔ n * options.drainPerReport < load := by
  rw [← Nat.not_le, ← Nat.not_le, ceilDiv_le_iff_le_mul hbatch, Nat.mul_comm]

/-! ### Steps -/

namespace Progress

variable (batch intervalMs : Nat)

/-- After a number of reports, each with a pause after it. -/
def polled (n : Nat) (p : Progress) : Progress :=
  { p with
    clock := p.clock + n * intervalMs
    run := p.run.advanceAll batch ((List.range n).map fun i => p.clock + i * intervalMs)
    calls := p.calls ++ List.replicate n .report }

/-- When the n-th report is there, counted from zero. -/
def answered (n : Nat) (p : Progress) : Progress :=
  { p.polled batch intervalMs (n + 1) with clock := p.clock + n * intervalMs }

theorem polled_zero (p : Progress) : p.polled batch intervalMs 0 = p := by
  simp [polled, Run.advanceAll]

theorem step_polled (n : Nat) (p : Progress) :
    (p.polled batch intervalMs n).step batch = p.answered batch intervalMs n := by
  simp [step, polled, answered, List.range_succ, Run.advanceAll, List.replicate_succ']

theorem run_answered (n : Nat) (p : Progress) :
    (p.polled batch intervalMs n).run.advance batch (p.polled batch intervalMs n).clock =
      (p.answered batch intervalMs n).run :=
  congrArg Progress.run (step_polled batch intervalMs n p)

theorem pause_answered (n : Nat) (p : Progress) :
    (p.answered batch intervalMs n).pause intervalMs = p.polled batch intervalMs (n + 1) := by
  simp [pause, polled, answered, Nat.add_mul, Nat.add_assoc]

theorem after_answered {p : Progress} (h : p.run.mode.isSome) (n : Nat) :
    Run.After batch n p.run (p.answered batch intervalMs n).run :=
  Run.advanceAll_counts h batch (by simp)

/-- All steps up to some report are made by the time of that report. -/
theorem fits_answered (batch : Nat) {intervalMs n : Nat} {p : Progress} (h : p.run.Fits)
    (hclock : p.clock + n * intervalMs < UInt64.size) :
    (p.answered batch intervalMs n).run.Fits := by
  refine h.advanceAll batch fun now hnow => ?_
  obtain ⟨i, hi, rfl⟩ := List.mem_map.mp hnow
  have hle : i * intervalMs ≤ n * intervalMs :=
    Nat.mul_le_mul_right _ (Nat.lt_succ_iff.mp (List.mem_range.mp hi))
  omega

end Progress

/-! ### Looks -/

variable {sends : Command → Prop} {target : Target Lab} {s : Session Lab} {p : Progress}

/-- What the n-th look of a wait finds. -/
inductive Finds (plan : Plan) (options : Options) (n : Nat) (p : Progress) :
    Option (Except Error Report) → Prop where
  | drained {report : Report} (enough : p.run.pending ≤ n * options.drainPerReport)
    (shows : (p.answered options.drainPerReport plan.pollIntervalMs n).run.Shows options report) :
    Finds plan options n p (some (.ok report))
  | late (short : n * options.drainPerReport < p.run.pending)
    (late : plan.timeoutMs < n * plan.pollIntervalMs) :
    Finds plan options n p (some (.error (.pollTimeout (.ofMillis (n * plan.pollIntervalMs)))))
  | nothing (short : n * options.drainPerReport < p.run.pending)
    (early : n * plan.pollIntervalMs ≤ plan.timeoutMs) : Finds plan options n p none

/-- **A look** at a lab finds what its number and the number of jobs make it find. -/
theorem look_finds (refusal : Nat → Option String) (h : Served options sends target)
    (hmode : p.run.mode.isSome) (hfits : p.run.Fits) {n : Nat}
    (hclock : p.clock + n * plan.pollIntervalMs < UInt64.size)
    (hs : Reaches s (p.polled options.drainPerReport plan.pollIntervalMs n)) :
    Finds plan options n p
        ((Session.bench target refusal).look (.ofMillis p.clock) plan.timeoutMs s).1 ∧
      Reaches ((Session.bench target refusal).look (.ofMillis p.clock) plan.timeoutMs s).2
        (p.answered options.drainPerReport plan.pollIntervalMs n) := by
  have hrun := Progress.fits_answered options.drainPerReport hfits hclock
  have hstep := Progress.run_answered options.drainPerReport plan.pollIntervalMs n p
  obtain ⟨report, s', hshows, hreport, hafter⟩ := hs.report refusal h (by rw [hstep]; exact hrun)
  rw [hstep] at hshows
  rw [Progress.step_polled] at hafter
  have hdrained : report.isDrained ↔ p.run.pending ≤ n * options.drainPerReport :=
    (hshows.isDrained_iff hrun).trans (Progress.after_answered _ _ hmode n).isDrained_iff
  rw [Bench.look_apply, hreport]
  -- a report takes no time, so what has passed is the pauses before it
  have helapsed : ((Session.bench target refusal).now s').1.since (.ofMillis p.clock) =
      .ofMillis (n * plan.pollIntervalMs) := by
    show (Duration.ofMillis s'.clock).since (.ofMillis p.clock) = _
    rw [Duration.since_ofMillis, hafter.clock]
    exact congrArg Duration.ofMillis (Nat.add_sub_cancel_left _ _)
  dsimp only
  rw [helapsed]
  by_cases hd : report.isDrained
  · rw [if_pos hd]
    exact ⟨.drained (hdrained.mp hd) hshows, hafter⟩
  · have hshort : n * options.drainPerReport < p.run.pending :=
      Nat.lt_of_not_le fun hle => hd (hdrained.mpr hle)
    rw [if_neg hd]
    by_cases hlt : plan.timeoutMs < n * plan.pollIntervalMs
    · rw [if_pos ((Duration.ofMillis_lt _ _).mpr hlt)]
      exact ⟨.late hshort hlt, hafter⟩
    · rw [if_neg fun hmillis => hlt ((Duration.ofMillis_lt _ _).mp hmillis)]
      exact ⟨.nothing hshort (Nat.le_of_not_lt hlt), hafter⟩

/-! ### Waits -/

/-- How a wait for the jobs of a run ends. -/
structure Ends (plan : Plan) (options : Options) (p : Progress) (outcome : Except Error Report) :
    Prop where
  inTime (h : InTime plan options p.run.pending) : ∃ report, outcome = .ok report ∧
    (p.answered options.drainPerReport plan.pollIntervalMs
      (pauses plan options p.run.pending)).run.Shows options report
  late (h : ¬ InTime plan options p.run.pending) :
    outcome = .error (.pollTimeout (.ofMillis (waitMs plan options p.run.pending)))

/-- A look that finds something is the last one. -/
theorem Finds.ends (hbatch : 0 < options.drainPerReport) (hinterval : 0 < plan.pollIntervalMs)
    {n : Nat} (hn : n ≤ pauses plan options p.run.pending) {outcome : Except Error Report}
    (h : Finds plan options n p (some outcome)) :
    n = pauses plan options p.run.pending ∧ Ends plan options p outcome := by
  obtain ⟨hbatches, htime⟩ := Nat.le_min.mp hn
  cases h with
  | @drained report enough shows =>
    -- as many batches as looks are enough, and there are no more looks than batches
    have hceil : p.run.pending ⌈/⌉ options.drainPerReport ≤ n :=
      Nat.le_of_not_lt fun hlt => Nat.not_lt_of_le enough ((lt_batches_iff hbatch n _).mp hlt)
    have hlast : n = pauses plan options p.run.pending :=
      Nat.le_antisymm hn (Nat.le_trans (Nat.min_le_left _ _) hceil)
    have hinTime := (inTime_iff hinterval _).mpr (Nat.le_trans hceil htime)
    exact ⟨hlast, ⟨fun _ => ⟨report, rfl, hlast ▸ shows⟩, fun hlate => absurd hinTime hlate⟩⟩
  | late short late =>
    -- the time is up after so many pauses, and there are more batches than that
    have hceil := (lt_batches_iff hbatch n _).mpr short
    have hover : plan.timeoutMs / plan.pollIntervalMs + 1 ≤ n :=
      (Nat.div_lt_iff_lt_mul hinterval).mpr late
    have hlast : n = pauses plan options p.run.pending :=
      Nat.le_antisymm hn (Nat.le_trans (Nat.min_le_right _ _) hover)
    refine ⟨hlast, ⟨fun hinTime => ?_, fun _ => by rw [waitMs, ← hlast]⟩⟩
    have hbound := (inTime_iff hinterval _).mp hinTime
    exact absurd (Nat.le_trans hbound hover) (Nat.not_le_of_lt hceil)

/-- After a look that finds nothing there is time for another one. -/
theorem Finds.succ_le_pauses (hbatch : 0 < options.drainPerReport)
    (hinterval : 0 < plan.pollIntervalMs) {n : Nat} (h : Finds plan options n p none) :
    n + 1 ≤ pauses plan options p.run.pending := by
  cases h with
  | nothing short early =>
    exact Nat.le_min.mpr ⟨(lt_batches_iff hbatch n _).mpr short,
      Nat.succ_le_succ ((Nat.le_div_iff_mul_le hinterval).mpr early)⟩

/-- The rounds of a wait at a lab end with the report after the last pause. -/
theorem polls_ends (refusal : Nat → Option String) (h : Served options sends target)
    (hbatch : 0 < options.drainPerReport) (hmode : p.run.mode.isSome) (hfits : p.run.Fits)
    (hclock : p.clock + waitMs plan options p.run.pending < UInt64.size) {s s' : Session Lab}
    {outcome : Except Error Report}
    (hpolls : (Session.bench target refusal).Polls (.ofMillis p.clock) plan.pollIntervalMs
      plan.timeoutMs s outcome s') :
    ∀ {n : Nat}, n ≤ pauses plan options p.run.pending →
      Reaches s (p.polled options.drainPerReport plan.pollIntervalMs n) →
      Ends plan options p outcome ∧
        Reaches s' (p.answered options.drainPerReport plan.pollIntervalMs
          (pauses plan options p.run.pending)) := by
  have hnow : ∀ {n : Nat}, n ≤ pauses plan options p.run.pending →
      p.clock + n * plan.pollIntervalMs < UInt64.size := by
    intro n hn
    have hle : n * plan.pollIntervalMs ≤ waitMs plan options p.run.pending :=
      Nat.mul_le_mul_right _ hn
    omega
  induction hpolls with
  | @found s s' outcome look =>
    intro n hn hs
    obtain ⟨hfinds, hafter⟩ := look_finds refusal h hmode hfits (hnow hn) hs
    rw [look] at hfinds hafter
    -- found or too late: there is no other look
    obtain ⟨rfl, hends⟩ := hfinds.ends hbatch plan.pollIntervalMs_pos hn
    exact ⟨hends, hafter⟩
  | @again s s₁ s' outcome look rest ih =>
    intro n hn hs
    obtain ⟨hfinds, hafter⟩ := look_finds refusal h hmode hfits (hnow hn) hs
    rw [look] at hfinds hafter
    -- nothing yet: after a pause the wait goes on with the next look
    refine ih (hfinds.succ_le_pauses hbatch plan.pollIntervalMs_pos) ?_
    rw [← Progress.pause_answered]
    exact hafter.pause h plan.pollIntervalMs

/-- **A wait at a lab** ends with the report after its last pause. -/
theorem ends_wait (refusal : Nat → Option String) (h : Served options sends target)
    (hbatch : 0 < options.drainPerReport) (hmode : p.run.mode.isSome) (hfits : p.run.Fits)
    (hclock : p.clock + waitMs plan options p.run.pending < UInt64.size) (hs : Reaches s p) :
    Ends plan options p
        ((Session.bench target refusal).wait plan.pollIntervalMs plan.timeoutMs s).1 ∧
      Reaches ((Session.bench target refusal).wait plan.pollIntervalMs plan.timeoutMs s).2
        (p.answered options.drainPerReport plan.pollIntervalMs
          (pauses plan options p.run.pending)) := by
  have hstart : Reaches s (p.polled options.drainPerReport plan.pollIntervalMs 0) := by
    rw [Progress.polled_zero]
    exact hs
  have hpolls := (Session.bench_clocked target refusal).wait_polls plan.pollIntervalMs_pos
    plan.timeoutMs s
  have hnow : ((Session.bench target refusal).now s).1 = .ofMillis p.clock :=
    congrArg Duration.ofMillis hs.clock
  rw [hnow] at hpolls
  exact polls_ends refusal h hbatch hmode hfits hclock hpolls (Nat.zero_le _) hstart

end QueueDrain.Lab
