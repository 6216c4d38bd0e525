import Mathlib.Data.List.Dedup
import QueueDrain.Proofs.Rollup.Groups

/-!
The summary of any results, in any order.

A rollup is told by its groups and by the reports of each group (`rollup_eq_map`), so results that
come in another order have the same rollup as long as the order inside every group is the same
(`rollup_eq_of_reportsOf`); that holds of averages of doubles too, which another order may change.
What is counted in whole numbers stays the same in any order (`totals_of_perm`).

* `mem_groupsOf`, `groupsOf_congr`: the groups are those that have a result, and nothing else
  matters to them;
* `summarizeRuns_grouped`: what the summary shows, group by group, and what changes it.
-/

namespace QueueDrain

variable {results results' : List RunResult}

/-! ### Sums of a group -/

/-- The sum of a field over reports, as a double, from left to right. -/
def totalOf (key : String) (reports : List Report) : Binary64 :=
  (reports.map (·.number key)).foldl (· + ·) (.zero false)

theorem totalOf_concat (key : String) (reports : List Report) (report : Report) :
    totalOf key (reports ++ [report]) = totalOf key reports + report.number key := by
  rw [totalOf, List.map_append, List.foldl_append]
  rfl

/-- The sums of a new group are the sums over its reports, one after the other. -/
theorem Tally.addAll_totals (items : Nat) (mode : Mode) (reports : List Report) :
    let t := Tally.addAll { items := items, mode := mode } reports
    t.drainMs = totalOf "drainTimeMs" reports ∧
      t.processingMs = totalOf "avgProcessingMs" reports ∧
      t.jobsPerMin = totalOf "jobsPerMinute" reports := by
  induction reports using List.reverseRecOn with
  | nil => exact ⟨rfl, rfl, rfl⟩
  | append_singleton reports report ih =>
    obtain ⟨hdrain, hprocessing, hjobs⟩ := ih
    dsimp only at *
    rw [Tally.addAll_concat, totalOf_concat, totalOf_concat, totalOf_concat, ← hdrain,
      ← hprocessing, ← hjobs]
    exact ⟨rfl, rfl, rfl⟩

/-! ### Groups -/

/-- The groups of a rollup, in its order. -/
def groupsOf (results : List RunResult) : List (Nat × Mode) :=
  (rollup results).map fun t => (t.items, t.mode)

/-- **A rollup is told by its groups and by the reports of each.** -/
theorem rollup_eq_map (results : List RunResult) :
    rollup results = (groupsOf results).map fun g =>
      Tally.addAll { items := g.1, mode := g.2 } (reportsOf g.1 g.2 results) := by
  rw [groupsOf, List.map_map]
  conv => lhs; rw [← List.map_id (rollup results)]
  refine List.map_congr_left fun t ht => ?_
  exact eq_addAll_of_mem_rollup ht

theorem length_reportsOf_pos_iff {items : Nat} {mode : Mode} :
    0 < (reportsOf items mode results).length ↔
      ∃ result ∈ results, result.isFor items mode := by
  rw [reportsOf, List.length_map, List.length_filter_pos_iff]

/-- The groups are those that have a result. -/
theorem mem_groupsOf {items : Nat} {mode : Mode} :
    (items, mode) ∈ groupsOf results ↔ 0 < (reportsOf items mode results).length := by
  rw [← isSome_sumsOf_rollup, Rollup.sumsOf, List.find?_isSome, groupsOf, List.mem_map]
  refine exists_congr fun t => and_congr_right fun _ => ?_
  rw [Tally.isFor, decide_eq_true_iff, Prod.mk.injEq]

theorem ascending_groupsOf (results : List RunResult) :
    (groupsOf results).Pairwise fun g g' => Tally.place g.1 g.2 < Tally.place g'.1 g'.2 := by
  rw [groupsOf, List.pairwise_map]
  exact ascending_rollup results

theorem nodup_groupsOf (results : List RunResult) : (groupsOf results).Nodup := by
  refine (ascending_groupsOf results).imp ?_
  rintro g _ hlt rfl
  exact lt_irrefl _ hlt

/-- There are as many groups as there are different pairs of a size and a mode. -/
theorem length_groupsOf (results : List RunResult) :
    (groupsOf results).length = (results.map fun r => (r.items, r.mode)).dedup.length := by
  refine List.Perm.length_eq
    ((List.perm_ext_iff_of_nodup (nodup_groupsOf results) (List.nodup_dedup _)).mpr ?_)
  rintro ⟨items, mode⟩
  rw [mem_groupsOf, length_reportsOf_pos_iff, List.mem_dedup, List.mem_map]
  refine exists_congr fun result => and_congr_right fun _ => ?_
  rw [RunResult.isFor, decide_eq_true_iff, Prod.mk.injEq]

/-- **Nothing but which groups have results** matters to the groups. -/
theorem groupsOf_congr (h : ∀ g, g ∈ groupsOf results ↔ g ∈ groupsOf results') :
    groupsOf results = groupsOf results' := by
  refine List.Perm.eq_of_pairwise ?_ (ascending_groupsOf results) (ascending_groupsOf results') ?_
  · intro g g' _ _ hlt hlt'
    exact absurd hlt (lt_asymm hlt')
  · exact (List.perm_ext_iff_of_nodup (nodup_groupsOf results) (nodup_groupsOf results')).mpr h

/-! ### Results in another order -/

/-- **The order of the results matters only within their groups.** -/
theorem rollup_eq_of_reportsOf
    (h : ∀ items mode, reportsOf items mode results' = reportsOf items mode results) :
    rollup results' = rollup results := by
  have hgroups : groupsOf results' = groupsOf results := by
    refine groupsOf_congr ?_
    rintro ⟨items, mode⟩
    rw [mem_groupsOf, mem_groupsOf, h]
  rw [rollup_eq_map results', rollup_eq_map results, hgroups]
  simp only [h]

/-- What a row shows in whole numbers. -/
def SummaryRow.totals (row : SummaryRow) : Nat × Mode × Nat × Int64 × Int64 :=
  (row.items, row.mode, row.runs, row.errors, row.retries)

/-- The totals of a group, told from its reports. -/
theorem totals_finish (items : Nat) (mode : Mode) (reports : List Report) :
    (Tally.addAll { items := items, mode := mode } reports).finish.totals =
      (items, mode, reports.length, .ofInt (reports.map (·.count "totalErrors")).sum,
        .ofInt (reports.map (·.count "totalRetryScheduled")).sum) := by
  obtain ⟨hitems, hmode, hruns, herrors, hretries⟩ :=
    Tally.addAll_spec { items := items, mode := mode } reports
  simp only [SummaryRow.totals, Tally.finish, hitems, hmode, hruns, herrors, hretries,
    Nat.zero_add, Int64.zero_add]

theorem summarizeRuns_eq_map (results : List RunResult) :
    summarizeRuns results = (groupsOf results).map fun g =>
      (Tally.addAll { items := g.1, mode := g.2 } (reportsOf g.1 g.2 results)).finish := by
  rw [summarizeRuns, Rollup.rows, rollup_eq_map, List.map_map]
  rfl

/-- **What is counted in whole numbers** is the same in any order of the results. -/
theorem totals_of_perm (h : results'.Perm results) :
    (summarizeRuns results').map SummaryRow.totals =
      (summarizeRuns results).map SummaryRow.totals := by
  have hreports : ∀ items mode,
      (reportsOf items mode results').Perm (reportsOf items mode results) :=
    fun items mode => (h.filter _).map _
  have hgroups : groupsOf results' = groupsOf results := by
    refine groupsOf_congr ?_
    rintro ⟨items, mode⟩
    rw [mem_groupsOf, mem_groupsOf, (hreports items mode).length_eq]
  rw [summarizeRuns_eq_map, summarizeRuns_eq_map, hgroups, List.map_map, List.map_map]
  refine List.map_congr_left fun g _ => ?_
  have hsum : ∀ key, ((reportsOf g.1 g.2 results').map (·.count key)).sum =
      ((reportsOf g.1 g.2 results).map (·.count key)).sum :=
    fun key => ((hreports g.1 g.2).map _).sum_eq
  simp only [Function.comp_apply, totals_finish, (hreports g.1 g.2).length_eq, hsum]

/-! ### The whole summary -/

/-- The average of a field over reports, with two decimals. -/
def averageOf (key : String) (reports : List Report) : Binary64 :=
  (totalOf key reports / .ofNat reports.length).hundredths

/-- The row of a group that has reports. -/
structure SummaryRow.SumsUp (row : SummaryRow) (reports : List Report) : Prop where
  runs : row.runs = reports.length
  avgDrainMs : row.avgDrainMs = averageOf "drainTimeMs" reports
  avgProcessingMs : row.avgProcessingMs = averageOf "avgProcessingMs" reports
  avgJobsPerMin : row.avgJobsPerMin = averageOf "jobsPerMinute" reports
  errors : IsTotal row.errors (reports.map (·.count "totalErrors")).sum
  retries : IsTotal row.retries (reports.map (·.count "totalRetryScheduled")).sum

theorem sumsUp_finish (items : Nat) (mode : Mode) {reports : List Report} (h : reports ≠ []) :
    (Tally.addAll { items := items, mode := mode } reports).finish.SumsUp reports := by
  obtain ⟨-, -, hruns, herrors, hretries⟩ :=
    Tally.addAll_spec { items := items, mode := mode } reports
  obtain ⟨hdrain, hprocessing, hjobs⟩ := Tally.addAll_totals items mode reports
  rw [Nat.zero_add] at hruns
  have haverage : ∀ sum, (Tally.addAll { items := items, mode := mode } reports).average sum =
      (sum / .ofNat reports.length).hundredths := by
    intro sum
    rw [Tally.average, hruns, if_neg (List.length_eq_zero_iff.not.mpr h)]
  constructor
  · exact hruns
  · rw [averageOf, ← hdrain]
    exact haverage _
  · rw [averageOf, ← hprocessing]
    exact haverage _
  · rw [averageOf, ← hjobs]
    exact haverage _
  · show IsTotal (Tally.addAll _ reports).errors _
    rw [herrors.trans (Int64.zero_add _)]
    exact isTotal_ofInt _
  · show IsTotal (Tally.addAll _ reports).retries _
    rw [hretries.trans (Int64.zero_add _)]
    exact isTotal_ofInt _

/-- What the summary of results shows, and what it depends on. -/
structure Grouped (results : List RunResult) : Prop where
  ascending : (summarizeRuns results).Pairwise fun a b =>
    a.items < b.items ∨ a.items = b.items ∧ a.mode.name < b.mode.name
  /-- Every group has one row, and there is no other row. -/
  pairs : ∀ items mode,
    (summarizeRuns results).countP (fun row => row.items = items ∧ row.mode = mode) =
      if ∃ result ∈ results, result.isFor items mode then 1 else 0
  length : (rollup results).length = (results.map fun r => (r.items, r.mode)).dedup.length ∧
    (summarizeRuns results).length = (rollup results).length
  /-- A row is that of a new group which is given the reports of the group, in their order. -/
  row : ∀ row ∈ summarizeRuns results,
    row = (Tally.addAll { items := row.items, mode := row.mode }
      (reportsOf row.items row.mode results)).finish
  sums : ∀ row ∈ summarizeRuns results, row.SumsUp (reportsOf row.items row.mode results)
  /-- One more result changes no other group. -/
  add : ∀ (result : RunResult) items mode, ¬ result.isFor items mode →
    (summarizeRuns (results ++ [result])).find? (fun row => row.items = items ∧ row.mode = mode) =
      (summarizeRuns results).find? (fun row => row.items = items ∧ row.mode = mode)
  /-- The same reports in every group, each in the same order, have the same summary. -/
  reorder : ∀ results' : List RunResult,
    (∀ items mode, reportsOf items mode results' = reportsOf items mode results) →
      summarizeRuns results' = summarizeRuns results
  /-- The same results in any order have the same totals. -/
  shuffle : ∀ results' : List RunResult, results'.Perm results →
    (summarizeRuns results').map SummaryRow.totals =
      (summarizeRuns results).map SummaryRow.totals

theorem find?_summarizeRuns (results : List RunResult) (items : Nat) (mode : Mode) :
    (summarizeRuns results).find? (fun row => row.items = items ∧ row.mode = mode) =
      ((rollup results).sumsOf items mode).map Tally.finish := by
  rw [summarizeRuns, Rollup.rows, List.find?_map]
  rfl

/-- **The summary of any results**, in any order and with the groups mixed in any way, has one row
for each size and mode, and the row is that of the reports of the group alone.  So the order of the
results matters only within the groups, and to the whole numbers not even there. -/
theorem summarizeRuns_grouped (results : List RunResult) : Grouped results := by
  have hrow : ∀ row ∈ summarizeRuns results, row = (Tally.addAll
      { items := row.items, mode := row.mode } (reportsOf row.items row.mode results)).finish := by
    intro row hrow
    obtain ⟨t, ht, rfl⟩ := List.mem_map.mp hrow
    exact congrArg Tally.finish (eq_addAll_of_mem_rollup ht)
  constructor
  · exact ascending_summarizeRuns results
  · intro items mode
    rw [countP_summarizeRuns]
    simp only [length_reportsOf_pos_iff]
  · refine ⟨?_, List.length_map _⟩
    rw [← length_groupsOf, groupsOf, List.length_map]
  · exact hrow
  · intro row hmem
    have hgroup : (row.items, row.mode) ∈ groupsOf results := by
      obtain ⟨t, ht, rfl⟩ := List.mem_map.mp hmem
      exact List.mem_map.mpr ⟨t, ht, rfl⟩
    have hsome := List.length_pos_iff.mp (mem_groupsOf.mp hgroup)
    have hsums := sumsUp_finish row.items row.mode hsome
    rw [← hrow row hmem] at hsums
    exact hsums
  · intro result items mode hother
    rw [find?_summarizeRuns, find?_summarizeRuns, rollup_concat,
      Rollup.sumsOf_add_of_ne _ hother]
  · intro results' h
    rw [summarizeRuns, rollup_eq_of_reportsOf h, summarizeRuns]
  · intro results' h
    exact totals_of_perm h

end QueueDrain
