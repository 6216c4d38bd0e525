import Mathlib.Algebra.BigOperators.Group.List.Basic
import Mathlib.Algebra.GroupWithZero.Nat
import Mathlib.Algebra.Ring.Int.Defs
import Mathlib.Data.List.Induction
import Mathlib.Data.Prod.Lex
import Mathlib.Data.String.Basic
import QueueDrain.Proofs.Plan.Sources
import QueueDrain.Rollup

/-!
What a rollup of results holds.

The results of one size and one mode are a group.  A rollup keeps its sums ascending
(`Ascending.add`), and a result changes those of its own group only (`sumsOf_add_self`,
`sumsOf_add_of_ne`); so the sums of a group are those of its reports alone, in their order
(`sumsOf_rollup`), and there are as many results as the groups have runs (`sum_runs_rollup`).

Design notes: the order of groups is that of pairs of a size and a name, so it comes with all the
laws of a linear order.
-/

namespace QueueDrain

/-- Whether a result belongs to the group of a size and a mode. -/
def RunResult.isFor (items : Nat) (mode : Mode) (result : RunResult) : Bool :=
  result.items = items ∧ result.mode = mode

/-- The reports of a group, in order. -/
def reportsOf (items : Nat) (mode : Mode) (results : List RunResult) : List Report :=
  (results.filter (·.isFor items mode)).map (·.report)

theorem reportsOf_concat (items : Nat) (mode : Mode) (results : List RunResult)
    (result : RunResult) :
    reportsOf items mode (results ++ [result]) = if result.isFor items mode then
      reportsOf items mode results ++ [result.report] else reportsOf items mode results := by
  by_cases h : result.isFor items mode
  · simp [reportsOf, h]
  · simp [reportsOf, h]

/-! ### Sums -/

/-- What a total shows of a sum: its lower 64 bits, which are the sum itself exactly if it is a word
of 64 bits. -/
structure IsTotal (total : Int64) (sum : Int) : Prop where
  wraps : total = .ofInt sum
  exact_iff : total.toInt = sum ↔ -2 ^ 63 ≤ sum ∧ sum < 2 ^ 63

theorem isTotal_ofInt (sum : Int) : IsTotal (.ofInt sum) sum where
  wraps := rfl
  exact_iff := by
    constructor
    · intro h
      rw [← h]
      exact ⟨Int64.le_toInt _, Int64.toInt_lt _⟩
    · rintro ⟨hle, hlt⟩
      exact Int64.toInt_ofInt_of_le hle hlt

namespace Tally

/-- The sums with more reports. -/
def addAll (t : Tally) (reports : List Report) : Tally := reports.foldl add t

/-- What sums are after more reports, as far as they are whole numbers. -/
theorem addAll_spec (t : Tally) (reports : List Report) :
    (t.addAll reports).items = t.items ∧ (t.addAll reports).mode = t.mode ∧
      (t.addAll reports).runs = t.runs + reports.length ∧
      (t.addAll reports).errors = t.errors + .ofInt (reports.map (·.count "totalErrors")).sum ∧
      (t.addAll reports).retries =
        t.retries + .ofInt (reports.map (·.count "totalRetryScheduled")).sum := by
  induction reports generalizing t with
  | nil => simp [addAll]
  | cons report reports ih =>
    obtain ⟨hitems, hmode, hruns, herrors, hretries⟩ := ih (t.add report)
    have hcons : t.addAll (report :: reports) = (t.add report).addAll reports := rfl
    rw [hcons, hitems, hmode, hruns, herrors, hretries]
    refine ⟨rfl, rfl, ?_, ?_, ?_⟩
    · simp [add]
      omega
    -- the upper bits of a sum do not matter to the lower ones
    · simp [add, Int64.ofInt_add, Int64.add_assoc]
    · simp [add, Int64.ofInt_add, Int64.add_assoc]

theorem addAll_concat (t : Tally) (reports : List Report) (report : Report) :
    t.addAll (reports ++ [report]) = (t.addAll reports).add report := List.foldl_concat _ _ _ _

/-- A group in the order of groups: its size, and the name of its mode. -/
def place (items : Nat) (mode : Mode) : Nat ×ₗ String := toLex (items, mode.name)

theorem place_inj {items items' : Nat} {mode mode' : Mode} :
    place items mode = place items' mode' ↔ items = items' ∧ mode = mode' := by
  constructor
  · intro h
    obtain ⟨hitems, hname⟩ := Prod.mk.inj (toLex.injective h)
    exact ⟨hitems, Plan.Mode.name_injective hname⟩
  · rintro ⟨rfl, rfl⟩
    rfl

theorem isFor_iff {t : Tally} {items : Nat} {mode : Mode} :
    t.isFor items mode ↔ place t.items t.mode = place items mode := by
  rw [place_inj, isFor, decide_eq_true_iff]

theorem isFor_add (t : Tally) (report : Report) (items : Nat) (mode : Mode) :
    (t.add report).isFor items mode = t.isFor items mode := rfl

theorem isAfter_iff {t : Tally} {items : Nat} {mode : Mode} :
    t.isAfter items mode ↔ place items mode < place t.items t.mode := by
  rw [place, place, Prod.Lex.toLex_lt_toLex, isAfter, decide_eq_true_iff]

end Tally

/-! ### Rollups -/

namespace Rollup

/-- The groups of a rollup are strictly ascending. -/
def Ascending (rollup : Rollup) : Prop :=
  rollup.Pairwise fun a b => Tally.place a.items a.mode < Tally.place b.items b.mode

/-- The sums of a group, if there are any. -/
def sumsOf (items : Nat) (mode : Mode) (rollup : Rollup) : Option Tally :=
  rollup.find? (·.isFor items mode)

variable {rollup : Rollup} {result : RunResult} {items : Nat} {mode : Mode}

theorem sumsOf_cons (t : Tally) (rollup : Rollup) :
    sumsOf items mode (t :: rollup) =
      if t.isFor items mode then some t else sumsOf items mode rollup := by
  by_cases h : t.isFor items mode
  · simp [sumsOf, h]
  · simp [sumsOf, h]

/-- Before the first group there is none. -/
theorem sumsOf_of_lt (h : ∀ t ∈ rollup, Tally.place items mode < Tally.place t.items t.mode) :
    sumsOf items mode rollup = none := by
  rw [sumsOf, List.find?_eq_none]
  intro t ht hfor
  exact absurd (Tally.isFor_iff.mp hfor) (h t ht).ne'

/-- A new result leaves the groups as they are, and perhaps adds its own. -/
theorem place_of_mem_add {t : Tally} (h : t ∈ Rollup.add result rollup) :
    Tally.place t.items t.mode = Tally.place result.items result.mode ∨
      ∃ t' ∈ rollup, Tally.place t'.items t'.mode = Tally.place t.items t.mode := by
  induction rollup with
  | nil =>
    left
    rw [add, List.mem_singleton] at h
    rw [h]
    rfl
  | cons u rollup ih =>
    rw [add] at h
    by_cases hfor : u.isFor result.items result.mode
    · rw [if_pos hfor, List.mem_cons] at h
      obtain rfl | h := h
      · left
        exact Tally.isFor_iff.mp hfor
      · right
        exact ⟨t, List.mem_cons_of_mem u h, rfl⟩
    · rw [if_neg hfor] at h
      by_cases hafter : u.isAfter result.items result.mode
      · rw [if_pos hafter, List.mem_cons] at h
        obtain rfl | h := h
        · left
          rfl
        · right
          exact ⟨t, h, rfl⟩
      · rw [if_neg hafter, List.mem_cons] at h
        obtain rfl | h := h
        · right
          exact ⟨t, List.mem_cons_self, rfl⟩
        · obtain heq | ⟨t', ht', heq⟩ := ih h
          · left
            exact heq
          · right
            exact ⟨t', List.mem_cons_of_mem u ht', heq⟩

/-- **A new result keeps the groups ascending.** -/
theorem Ascending.add (h : Ascending rollup) (result : RunResult) :
    Ascending (Rollup.add result rollup) := by
  induction rollup with
  | nil => exact List.pairwise_singleton _ _
  | cons t rollup ih =>
    obtain ⟨hfirst, hrest⟩ := List.pairwise_cons.mp h
    rw [Rollup.add]
    by_cases hfor : t.isFor result.items result.mode
    · rw [if_pos hfor]
      exact List.pairwise_cons.mpr ⟨hfirst, hrest⟩
    · rw [if_neg hfor]
      by_cases hafter : t.isAfter result.items result.mode
      · rw [if_pos hafter]
        have hlt := Tally.isAfter_iff.mp hafter
        refine List.pairwise_cons.mpr ⟨?_, h⟩
        intro u hu
        obtain rfl | hu := List.mem_cons.mp hu
        · exact hlt
        · exact hlt.trans (hfirst u hu)
      · -- the result belongs to a later group
        rw [if_neg hafter]
        have hlt : Tally.place t.items t.mode < Tally.place result.items result.mode := by
          rw [Tally.isFor_iff] at hfor
          rw [Tally.isAfter_iff] at hafter
          exact lt_of_le_of_ne (not_lt.mp hafter) hfor
        refine List.pairwise_cons.mpr ⟨?_, ih hrest⟩
        intro u hu
        obtain heq | ⟨v, hv, heq⟩ := place_of_mem_add hu
        · rw [heq]
          exact hlt
        · rw [← heq]
          exact hfirst v hv

/-- A new result is added to the sums of its own group. -/
theorem sumsOf_add_self (h : Ascending rollup) (result : RunResult) :
    sumsOf result.items result.mode (Rollup.add result rollup) =
      some (((sumsOf result.items result.mode rollup).getD
        { items := result.items, mode := result.mode }).add result.report) := by
  induction rollup with
  | nil => simp [Rollup.add, sumsOf, Tally.isFor, Tally.add]
  | cons t rollup ih =>
    obtain ⟨hfirst, hrest⟩ := List.pairwise_cons.mp h
    rw [Rollup.add]
    by_cases hfor : t.isFor result.items result.mode
    · rw [if_pos hfor, sumsOf_cons, sumsOf_cons, Tally.isFor_add, if_pos hfor, if_pos hfor]
      rfl
    · rw [if_neg hfor]
      by_cases hafter : t.isAfter result.items result.mode
      · -- the group is new, for all there are come after it
        have hlt := Tally.isAfter_iff.mp hafter
        have hnone : sumsOf result.items result.mode (t :: rollup) = none := by
          refine sumsOf_of_lt fun u hu => ?_
          obtain rfl | hu := List.mem_cons.mp hu
          · exact hlt
          · exact hlt.trans (hfirst u hu)
        rw [if_pos hafter, hnone, sumsOf_cons, Tally.isFor_add,
          if_pos (Tally.isFor_iff.mpr rfl)]
        rfl
      · rw [if_neg hafter, sumsOf_cons, sumsOf_cons, if_neg hfor, if_neg hfor]
        exact ih hrest

/-- A new result changes no other group. -/
theorem sumsOf_add_of_ne (rollup : Rollup) {result : RunResult}
    (hne : ¬ result.isFor items mode) :
    sumsOf items mode (Rollup.add result rollup) = sumsOf items mode rollup := by
  have hplace : Tally.place result.items result.mode ≠ Tally.place items mode := by
    intro heq
    exact hne (decide_eq_true (Tally.place_inj.mp heq))
  have hfresh : ∀ report, ¬ (Tally.add
      { items := result.items, mode := result.mode } report).isFor items mode := by
    intro report hfor
    exact hplace (Tally.isFor_iff.mp hfor)
  induction rollup with
  | nil => rw [Rollup.add, sumsOf_cons, if_neg (hfresh _)]
  | cons t rollup ih =>
    rw [Rollup.add]
    by_cases hfor : t.isFor result.items result.mode
    · have hother : ¬ t.isFor items mode := by
        intro hboth
        exact hplace ((Tally.isFor_iff.mp hfor).symm.trans (Tally.isFor_iff.mp hboth))
      rw [if_pos hfor, sumsOf_cons, sumsOf_cons, Tally.isFor_add, if_neg hother, if_neg hother]
    · rw [if_neg hfor]
      by_cases hafter : t.isAfter result.items result.mode
      · rw [if_pos hafter, sumsOf_cons, if_neg (hfresh _)]
      · rw [if_neg hafter, sumsOf_cons, sumsOf_cons, ih]

/-- With every result one group has one run more. -/
theorem sum_runs_add (result : RunResult) (rollup : Rollup) :
    ((Rollup.add result rollup).map (·.runs)).sum = (rollup.map (·.runs)).sum + 1 := by
  induction rollup with
  | nil => simp [Rollup.add, Tally.add]
  | cons t rollup ih =>
    rw [Rollup.add]
    by_cases hfor : t.isFor result.items result.mode
    · rw [if_pos hfor, List.map_cons, List.map_cons, List.sum_cons, List.sum_cons]
      simp only [Tally.add]
      omega
    · rw [if_neg hfor]
      by_cases hafter : t.isAfter result.items result.mode
      · rw [if_pos hafter, List.map_cons, List.sum_cons]
        simp only [Tally.add]
        omega
      · rw [if_neg hafter, List.map_cons, List.map_cons, List.sum_cons, List.sum_cons, ih]
        omega

/-- A group occurs once, or not at all. -/
theorem countP_isFor (h : Ascending rollup) (items : Nat) (mode : Mode) :
    rollup.countP (·.isFor items mode) = if (sumsOf items mode rollup).isSome then 1 else 0 := by
  induction rollup with
  | nil => rfl
  | cons t rollup ih =>
    obtain ⟨hfirst, hrest⟩ := List.pairwise_cons.mp h
    rw [List.countP_cons, sumsOf_cons]
    by_cases hfor : t.isFor items mode
    · have hnone : rollup.countP (·.isFor items mode) = 0 := by
        rw [List.countP_eq_zero]
        intro u hu hboth
        have hlt := hfirst u hu
        rw [Tally.isFor_iff.mp hfor, Tally.isFor_iff.mp hboth] at hlt
        exact lt_irrefl _ hlt
      simp [hfor, hnone]
    · simp [hfor, ih hrest]

theorem sumsOf_of_mem (h : Ascending rollup) {t : Tally} (ht : t ∈ rollup) :
    sumsOf t.items t.mode rollup = some t := by
  induction rollup with
  | nil => cases ht
  | cons u rollup ih =>
    obtain ⟨hfirst, hrest⟩ := List.pairwise_cons.mp h
    rw [sumsOf_cons]
    obtain rfl | ht := List.mem_cons.mp ht
    · rw [if_pos (Tally.isFor_iff.mpr rfl)]
    · rw [if_neg fun hfor => (hfirst t ht).ne (Tally.isFor_iff.mp hfor)]
      exact ih hrest ht

end Rollup

/-! ### Results -/

theorem rollup_concat (results : List RunResult) (result : RunResult) :
    rollup (results ++ [result]) = (rollup results).add result := List.foldl_concat _ _ _ _

theorem ascending_rollup (results : List RunResult) : (rollup results).Ascending := by
  induction results using List.reverseRecOn with
  | nil => exact List.Pairwise.nil
  | append_singleton results result ih =>
    rw [rollup_concat]
    exact ih.add result

/-- **The sums of a group** are those of its reports alone, in their order. -/
theorem sumsOf_rollup (results : List RunResult) (items : Nat) (mode : Mode) :
    (rollup results).sumsOf items mode =
      if reportsOf items mode results = [] then none
      else some (Tally.addAll { items, mode } (reportsOf items mode results)) := by
  induction results using List.reverseRecOn with
  | nil => rfl
  | append_singleton results result ih =>
    rw [rollup_concat, reportsOf_concat]
    by_cases hfor : result.isFor items mode
    · obtain ⟨rfl, rfl⟩ : result.items = items ∧ result.mode = mode := of_decide_eq_true hfor
      rw [if_pos hfor, Rollup.sumsOf_add_self (ascending_rollup results), ih,
        if_neg (List.concat_ne_nil _ _), Tally.addAll_concat]
      by_cases hnone : reportsOf result.items result.mode results = []
      · rw [if_pos hnone, hnone]
        rfl
      · rw [if_neg hnone]
        rfl
    · rw [if_neg hfor, Rollup.sumsOf_add_of_ne _ hfor]
      exact ih

/-- What a rollup holds of a group is the sums of its reports. -/
theorem eq_addAll_of_mem_rollup {results : List RunResult} {t : Tally} (ht : t ∈ rollup results) :
    t = Tally.addAll { items := t.items, mode := t.mode }
      (reportsOf t.items t.mode results) := by
  have hsums := Rollup.sumsOf_of_mem (ascending_rollup results) ht
  rw [sumsOf_rollup] at hsums
  split at hsums
  · cases hsums
  · exact (Option.some.inj hsums).symm

/-- A group has sums exactly if it has a result. -/
theorem isSome_sumsOf_rollup (results : List RunResult) (items : Nat) (mode : Mode) :
    ((rollup results).sumsOf items mode).isSome ↔ 0 < (reportsOf items mode results).length := by
  rw [sumsOf_rollup, List.length_pos_iff]
  by_cases hnone : reportsOf items mode results = []
  · simp [hnone]
  · simp [hnone]

/-- There are as many results as the groups have runs. -/
theorem sum_runs_rollup (results : List RunResult) :
    ((rollup results).map (·.runs)).sum = results.length := by
  induction results using List.reverseRecOn with
  | nil => rfl
  | append_singleton results result ih =>
    rw [rollup_concat, Rollup.sum_runs_add, ih, List.length_append, List.length_singleton]

/-! ### Rows -/

/-- The rows of a summary are strictly ascending. -/
theorem ascending_summarizeRuns (results : List RunResult) :
    (summarizeRuns results).Pairwise fun a b =>
      a.items < b.items ∨ a.items = b.items ∧ a.mode.name < b.mode.name := by
  rw [summarizeRuns, Rollup.rows, List.pairwise_map]
  refine (ascending_rollup results).imp ?_
  intro a b hab
  exact Prod.Lex.toLex_lt_toLex.mp hab

/-- **A group with results has one row**, and no other group has any. -/
theorem countP_summarizeRuns (results : List RunResult) (items : Nat) (mode : Mode) :
    (summarizeRuns results).countP (fun row => row.items = items ∧ row.mode = mode) =
      if 0 < (reportsOf items mode results).length then 1 else 0 := by
  have hcount : (summarizeRuns results).countP (fun row => row.items = items ∧ row.mode = mode) =
      (rollup results).countP (·.isFor items mode) := by
    rw [summarizeRuns, Rollup.rows, List.countP_map]
    rfl
  rw [hcount, Rollup.countP_isFor (ascending_rollup results)]
  simp only [isSome_sumsOf_rollup]

end QueueDrain
