import Mathlib.Algebra.BigOperators.Group.List.Basic
import Mathlib.Tactic.Ring
import QueueDrain.Proofs.Bench.Matrix
import QueueDrain.Proofs.Plan.Places
import QueueDrain.Proofs.Rollup.Groups

/-!
The summary of a whole matrix.

The results of a run that ends well belong to the iterations of its plan, one each, and a pair of a
size and a mode has as many iterations as the plan has repetitions, once for every place of the size
and every place of the mode (`Plan.countP_iterations`).  So the summary has one row for each pair,
with all runs of the pair in it (`summarizeRuns_covers`).
-/

namespace QueueDrain

/-! ### Iterations of a pair -/

/-- Whether an iteration belongs to a size and a mode. -/
def Iteration.isFor (items : Nat) (mode : Mode) (iteration : Iteration) : Bool :=
  iteration.items = items ∧ iteration.mode = mode

namespace Plan

theorem sum_map_ite {α : Type} [DecidableEq α] (l : List α) (a : α) (n : Nat) :
    (l.map fun b => if b = a then n else 0).sum = l.count a * n := by
  rw [List.sum_map_ite, List.map_const', List.map_const', List.sum_replicate_nat,
    List.sum_replicate_nat, Nat.mul_zero, Nat.add_zero, ← List.countP_eq_length_filter]
  rfl

/-- **The iterations of a pair**: every repetition, for every place of the size and of the mode. -/
theorem countP_iterations (plan : Plan) (items : Nat) (mode : Mode) :
    plan.iterations.countP (·.isFor items mode) =
      plan.items.count items * (plan.modes.count mode * plan.runs) := by
  have hcell : ∀ n m, ((List.range' 1 plan.runs).map fun run => Iteration.mk n m run).countP
      (·.isFor items mode) = if n = items then (if m = mode then plan.runs else 0) else 0 := by
    intro n m
    by_cases hn : n = items
    · by_cases hm : m = mode
      · simp [List.countP_map, Function.comp_def, Iteration.isFor, hn, hm]
      · simp [List.countP_map, Function.comp_def, Iteration.isFor, hn, hm]
    · simp [List.countP_map, Function.comp_def, Iteration.isFor, hn]
  have hsize : ∀ n, (plan.modes.flatMap fun m =>
      (List.range' 1 plan.runs).map fun run => Iteration.mk n m run).countP (·.isFor items mode) =
        if n = items then plan.modes.count mode * plan.runs else 0 := by
    intro n
    rw [List.countP_flatMap]
    simp only [Function.comp_def, hcell]
    by_cases hn : n = items
    · simp only [if_pos hn]
      exact sum_map_ite plan.modes mode plan.runs
    · simp [hn]
  rw [iterations, List.countP_flatMap]
  simp only [Function.comp_def, hsize]
  exact sum_map_ite plan.items items (plan.modes.count mode * plan.runs)

end Plan

/-! ### Results of a whole matrix -/

/-- What the summary of all iterations of a plan shows. -/
structure Covers (plan : Plan) (results : List RunResult) (rows : List SummaryRow) : Prop where
  ascending : rows.Pairwise fun a b =>
    a.items < b.items ∨ a.items = b.items ∧ a.mode.name < b.mode.name
  /-- There is one row for each pair that the plan runs, and no other one. -/
  pairs : ∀ items mode, rows.countP (fun row => row.items = items ∧ row.mode = mode) =
    if items ∈ plan.items ∧ mode ∈ plan.modes ∧ 0 < plan.runs then 1 else 0
  runs : ∀ row ∈ rows,
    row.runs = plan.runs * plan.items.count row.items * plan.modes.count row.mode
  /-- All iterations are in one of the rows. -/
  total : (rows.map (·.runs)).sum = plan.iterations.length
  /-- So the total of the plan is that of the rows, as long as 64 bits can count the results; there
  is no room for more of them in memory. -/
  total_iff : plan.totalIterations.toNat = (rows.map (·.runs)).sum ↔
    (rows.map (·.runs)).sum < UInt64.size
  /-- The runs of a row are the results of its pair. -/
  members : ∀ row ∈ rows, row.runs = (results.filter (·.isFor row.items row.mode)).length
  errors : ∀ row ∈ rows, IsTotal row.errors
    ((results.filter (·.isFor row.items row.mode)).map (·.report.count "totalErrors")).sum
  retries : ∀ row ∈ rows, IsTotal row.retries
    ((results.filter (·.isFor row.items row.mode)).map (·.report.count "totalRetryScheduled")).sum

theorem length_reportsOf (items : Nat) (mode : Mode) (results : List RunResult) :
    (reportsOf items mode results).length =
      (results.map RunResult.iteration).countP (·.isFor items mode) := by
  rw [reportsOf, List.length_map, ← List.countP_eq_length_filter, List.countP_map]
  rfl

/-- The whole numbers that a rollup holds are the sums over the reports of their group. -/
theorem sums_of_mem_rollup {results : List RunResult} {t : Tally} (ht : t ∈ rollup results) :
    t.runs = (reportsOf t.items t.mode results).length ∧
      IsTotal t.errors ((reportsOf t.items t.mode results).map (·.count "totalErrors")).sum ∧
      IsTotal t.retries
        ((reportsOf t.items t.mode results).map (·.count "totalRetryScheduled")).sum := by
  obtain ⟨-, -, hruns, herrors, hretries⟩ := Tally.addAll_spec
    { items := t.items, mode := t.mode } (reportsOf t.items t.mode results)
  rw [← eq_addAll_of_mem_rollup ht] at hruns herrors hretries
  rw [herrors.trans (Int64.zero_add _), hretries.trans (Int64.zero_add _)]
  exact ⟨hruns.trans (Nat.zero_add _), isTotal_ofInt _, isTotal_ofInt _⟩

/-- A row sums up the results of its pair. -/
theorem sums_of_mem_summary {results : List RunResult} {row : SummaryRow}
    (h : row ∈ summarizeRuns results) :
    row.runs = (results.filter (·.isFor row.items row.mode)).length ∧
      IsTotal row.errors
        ((results.filter (·.isFor row.items row.mode)).map (·.report.count "totalErrors")).sum ∧
      IsTotal row.retries ((results.filter (·.isFor row.items row.mode)).map
        (·.report.count "totalRetryScheduled")).sum := by
  obtain ⟨t, ht, rfl⟩ := List.mem_map.mp h
  have hsums := sums_of_mem_rollup ht
  rw [reportsOf, List.length_map, List.map_map, List.map_map] at hsums
  exact hsums

/-- The summary of results that belong to the iterations of a plan, one each. -/
theorem covers_of_iterations {plan : Plan} {results : List RunResult}
    (h : results.map RunResult.iteration = plan.iterations) :
    Covers plan results (summarizeRuns results) := by
  have hlength : ∀ items mode, (reportsOf items mode results).length =
      plan.items.count items * (plan.modes.count mode * plan.runs) := by
    intro items mode
    rw [length_reportsOf, h, Plan.countP_iterations]
  have htotal : ((summarizeRuns results).map (·.runs)).sum = plan.iterations.length := by
    rw [← h, List.length_map, ← sum_runs_rollup, summarizeRuns, Rollup.rows, List.map_map]
    rfl
  constructor
  · exact ascending_summarizeRuns results
  · intro items mode
    have hiff : 0 < (reportsOf items mode results).length ↔
        items ∈ plan.items ∧ mode ∈ plan.modes ∧ 0 < plan.runs := by
      rw [hlength, Nat.pos_iff_ne_zero, Nat.mul_ne_zero_iff,
        Nat.mul_ne_zero_iff, ← Nat.pos_iff_ne_zero, ← Nat.pos_iff_ne_zero, ← Nat.pos_iff_ne_zero,
        List.count_pos_iff, List.count_pos_iff]
    rw [countP_summarizeRuns]
    simp only [hiff]
  · intro row hrow
    have hmembers := (sums_of_mem_summary hrow).1
    have hreports := hlength row.items row.mode
    rw [reportsOf, List.length_map] at hreports
    rw [hmembers, hreports]
    ring
  · exact htotal
  · rw [htotal, Plan.length_iterations]
    exact plan.toNat_totalIterations_iff
  · intro row hrow
    exact (sums_of_mem_summary hrow).1
  · intro row hrow
    exact (sums_of_mem_summary hrow).2.1
  · intro row hrow
    exact (sums_of_mem_summary hrow).2.2

/-- **The summary of a whole matrix** has one row for each pair of a size and a mode, ascending by
size and then by the name of the mode.  A row has the repetitions of the plan in it for every place
of its size and every place of its mode, and sums up the errors and the retries of just these runs;
all rows together have all iterations of the plan. -/
theorem summarizeRuns_covers (script : Script) (refusal : Nat → Option String) (plan : Plan)
    {results : List RunResult} (h : (script.run refusal plan).1 = .ok results) :
    Covers plan results (summarizeRuns results) := by
  obtain ⟨rows, hran⟩ := script.runFrom_ran refusal plan plan.countIterations 0 { target := {} }
    (by rw [Plan.length_iterations, Nat.zero_add])
  obtain ⟨rfl, hiterations⟩ := hran.finished results h
  exact covers_of_iterations hiterations

/-- A report of one error, with nothing left to do. -/
def eagerReport : Report := ⟨[("totalErrors", .ofNat 1)]⟩

/-- A system under test that is done at once, with one error each time. -/
def eagerScript : Script where
  command _ _ := ⟨0, .ok ()⟩
  report _ := ⟨0, .ok eagerReport⟩
  metric _ _ := ⟨0, .missing⟩

/-- The result of an iteration on this system. -/
def eagerResult (iteration : Iteration) : RunResult where
  items := iteration.items
  mode := iteration.mode
  run := iteration.run
  report := eagerReport
  memory := none

/-- The first look ends the wait. -/
theorem wait_eager (intervalMs timeoutMs : Nat) (s : Session Script.Position) :
    (Session.bench eagerScript.target fun _ => none).wait intervalMs timeoutMs s =
      (.ok eagerReport, (s.report eagerScript.target).2) := by
  refine Bench.wait_eq_of_polls (.found ?_)
  have hdrained : eagerReport.isDrained := by decide
  rw [Bench.look_apply]
  show (if eagerReport.isDrained then _ else _) = _
  rw [if_pos hdrained]
  rfl

theorem runOnce_eager {plan : Plan} (h : plan.sampleHeap = false) (iteration : Iteration)
    (s : Session Script.Position) :
    ∃ s', (Session.bench eagerScript.target fun _ => none).runOnce plan iteration s =
      (.ok (eagerResult iteration), s') := by
  have hdrain : ∀ s, ∃ s', (Session.bench eagerScript.target fun _ => none).drain plan iteration s =
      (.ok eagerReport, s') := by
    intro s
    rw [Bench.drain_apply]
    exact ⟨_, wait_eager plan.pollIntervalMs plan.timeoutMs _⟩
  obtain ⟨s', hs'⟩ := hdrain (s.command eagerScript.target .reset).2
  have hsampled : (Session.bench eagerScript.target fun _ => none).sampled plan
      ((Session.bench eagerScript.target fun _ => none).drain plan iteration)
      (s.command eagerScript.target .reset).2 = ((.ok eagerReport, none), s') := by
    rw [Bench.sampled, h, if_neg Bool.false_ne_true, Bench.bind_apply, hs']
    rfl
  have hreset : (Session.bench eagerScript.target fun _ => none).command .reset s =
      (.ok (), (s.command eagerScript.target .reset).2) := rfl
  refine ⟨s', ?_⟩
  rw [Bench.runOnce_apply, hreset]
  dsimp only
  rw [hsampled]
  rfl

theorem runFrom_eager {plan : Plan} (h : plan.sampleHeap = false) (n k : Nat)
    (s : Session Script.Position) (hlength : plan.iterations.length = k + n) :
    ((Session.bench eagerScript.target fun _ => none).runFrom plan n k s).1 =
      .ok ((plan.iterations.drop k).map eagerResult) := by
  induction n generalizing k s with
  | zero =>
    rw [List.drop_eq_nil_of_le (by omega)]
    rfl
  | succ n ih =>
    have hk : k < plan.iterations.length := by omega
    have hat : plan.iterationAt? k = some plan.iterations[k] := by
      rw [Plan.iterationAt?_eq_getElem?, List.getElem?_eq_getElem hk]
    obtain ⟨s', honce⟩ := runOnce_eager h plan.iterations[k]
      ((Session.bench eagerScript.target fun _ => none).announce k plan.iterations[k] s).2
    rw [Bench.runFrom_succ_apply _ plan n k hat, honce, List.drop_eq_getElem_cons hk,
      List.map_cons]
    exact congrArg (Except.map _) (ih (k + 1) _ (by omega))

/-- A plan in which a size comes twice, with another one in between. -/
def repeatingPlan : Plan :=
  { Plan.single with items := [5, 2, 5], modes := [.sync, .async], runs := 2 }

/-- The size that comes twice still has one row for each mode. -/
theorem summarizeRuns_covers_repeatingPlan :
    (eagerScript.run (fun _ => none) repeatingPlan).1 =
        .ok (repeatingPlan.iterations.map eagerResult) ∧
      Covers repeatingPlan (repeatingPlan.iterations.map eagerResult)
        (summarizeRuns (repeatingPlan.iterations.map eagerResult)) ∧
      (summarizeRuns (repeatingPlan.iterations.map eagerResult)).countP
        (fun row => row.items = 5 ∧ row.mode = .sync) = 1 := by
  have hrun : (eagerScript.run (fun _ => none) repeatingPlan).1 =
      .ok (repeatingPlan.iterations.map eagerResult) :=
    runFrom_eager rfl repeatingPlan.countIterations 0 { target := {} } rfl
  have hcovers := summarizeRuns_covers eagerScript (fun _ => none) repeatingPlan hrun
  refine ⟨hrun, hcovers, ?_⟩
  rw [hcovers.pairs 5 .sync]
  rfl

end QueueDrain
