import QueueDrain.Plan.Basic

/-!
The iterations of a plan by their position.

The closed form `iterationAt?` of the iteration at a position agrees with the nested list
`iterations` (`iterationAt?_eq_getElem?`), so a run that goes through the positions goes through the
list.
-/

namespace QueueDrain.Plan

/-- Where an item stands in a list of lists that are all of one length. -/
theorem getElem?_flatMap_of_length {α β : Type} {f : α → List β} {c : Nat}
    (hlen : ∀ a, (f a).length = c) (l : List α) (k : Nat) :
    (l.flatMap f)[k]? = l[k / c]?.bind fun a => (f a)[k % c]? := by
  induction l generalizing k with
  | nil => simp
  | cons a l ih =>
    rw [List.flatMap_cons]
    -- within the first list, or at a place of the ones after it
    by_cases hk : k < c
    · rw [List.getElem?_append_left (by rw [hlen]; exact hk), Nat.div_eq_of_lt hk,
        Nat.mod_eq_of_lt hk]
      rfl
    · rw [List.getElem?_append_right (by rw [hlen]; omega), hlen, ih]
      rcases Nat.eq_zero_or_pos c with rfl | hpos
      · have hnil : ∀ b, (f b)[k]? = none := fun b => by
          rw [List.eq_nil_of_length_eq_zero (hlen b)]
          rfl
        simp [hnil]
      · obtain ⟨j, rfl⟩ : ∃ j, k = j + c := ⟨k - c, by omega⟩
        rw [Nat.add_sub_cancel, Nat.add_div_right j hpos, Nat.add_mod_right,
          List.getElem?_cons_succ]

theorem length_flatMap_of_length {α β : Type} {f : α → List β} {c : Nat}
    (hlen : ∀ a, (f a).length = c) (l : List α) : (l.flatMap f).length = l.length * c := by
  induction l with
  | nil => simp
  | cons a l ih => rw [List.flatMap_cons, List.length_append, hlen, ih, List.length_cons,
      Nat.add_mul, Nat.one_mul, Nat.add_comm]

theorem length_repetitions (runs items : Nat) (mode : Mode) :
    ((List.range' 1 runs).map fun run => Iteration.mk items mode run).length = runs := by
  rw [List.length_map, List.length_range']

theorem length_cells (modes : List Mode) (runs items : Nat) :
    (modes.flatMap fun mode =>
      (List.range' 1 runs).map fun run => Iteration.mk items mode run).length
      = modes.length * runs :=
  length_flatMap_of_length (length_repetitions runs items) modes

theorem length_iterations (plan : Plan) : plan.iterations.length = plan.countIterations := by
  rw [iterations, length_flatMap_of_length (length_cells plan.modes plan.runs), countIterations,
    Nat.mul_assoc]

/-- **The closed form agrees with the list.** -/
theorem iterationAt?_eq_getElem? (plan : Plan) (k : Nat) :
    plan.iterationAt? k = plan.iterations[k]? := by
  rw [iterationAt?]
  by_cases hk : k < plan.countIterations
  · rw [if_pos hk, iterations, getElem?_flatMap_of_length (length_cells plan.modes plan.runs)]
    -- a plan with an iteration has a repetition
    have hruns : 0 < plan.runs := by
      rcases Nat.eq_zero_or_pos plan.runs with h | h
      · rw [countIterations, h] at hk
        omega
      · exact h
    rcases plan.items[k / (plan.modes.length * plan.runs)]? with _ | items
    · rfl
    · show _ = (plan.modes.flatMap fun mode => _)[_]?
      rw [getElem?_flatMap_of_length (length_repetitions plan.runs items),
        Nat.mod_mul_left_div_self, Nat.mod_mul_left_mod]
      rcases plan.modes[k / plan.runs % plan.modes.length]? with _ | mode
      · rfl
      · show some _ = ((List.range' 1 plan.runs).map _)[k % plan.runs]?
        rw [List.getElem?_map, List.getElem?_range' (Nat.mod_lt k hruns)]
        simp [Nat.add_comm]
  · rw [if_neg hk, List.getElem?_eq_none]
    rw [length_iterations]
    omega

/-- Of the iterations that are left at a position, the first one is there and the others come next.
-/
theorem iterationAt?_of_drop (plan : Plan) {k : Nat} {iteration : Iteration}
    {rest : List Iteration} (h : plan.iterations.drop k = iteration :: rest) :
    plan.iterationAt? k = some iteration ∧ plan.iterations.drop (k + 1) = rest := by
  constructor
  · rw [iterationAt?_eq_getElem?, ← Nat.add_zero k, ← List.getElem?_drop, h]
    rfl
  · rw [← List.tail_drop, h]
    rfl

/-- One job that is dispatched once, with the default settings for everything else. -/
def single : Plan where
  profile := .flow
  baseUrl := "http://localhost:8070"
  items := [1]
  modes := [.sync]
  runs := 1
  pollIntervalMs := 1000
  timeoutMs := 600000
  sampleHeap := false
  samplerIntervalMs := 500
  joinGraceMs := 2000
  controlTimeoutMs := 30000
  metricTimeoutMs := 3000

end QueueDrain.Plan
