import QueueDrain.Plan.Sizes

/-!
Which sizes a range gives, and how they are reached in numbers of 64 bits.

The sizes of a range are what is reached from its start in whole steps without going beyond its end
(`IsProgression`).  A walk that goes from one to the next comes upon just these (`walk_of_pos`), or
is refused at its first step (`walk_of_nonpos`).  `itemsRange_progresses` says when there is a range
and what is in it, and that the walk never needs a sum that it could not form.

Design notes: a walk asks of one sum in each step whether it has 64 bits, because that sum may well
lie beyond the end, and takes it for granted of the other.  A guarded walk asks of both, and has no
outcome at all (`none`) where the other has not, so that there is always an outcome is a theorem.
-/

namespace QueueDrain.Plan

/-! ### The sizes of a range -/

/-- The sizes from `start` on, `step` apart, up to `stop`. -/
structure IsProgression (start stop step : Int) (sizes : List Nat) : Prop where
  /-- At each position there is the size after so many steps, unless it is beyond the end. -/
  place : ∀ (k size : Nat), sizes[k]? = some size ↔ (size : Int) = start + k * step ∧ size ≤ stop
  ascending : sizes.Pairwise (· < ·)
  length : (sizes.length : Int) = (stop - start) / step + 1
  first : ∃ size : Nat, sizes.head? = some size ∧ (size : Int) = start
  last : ∃ size : Nat, sizes.getLast? = some size ∧ stop - size < step

/-- The number of sizes in a range that is not empty. -/
def countSizes (start stop step : Int) : Nat := ((stop - start) / step + 1).toNat

/-- The sizes of a range, by the number of steps to each of them. -/
def sizesUpTo (start stop step : Int) : List Nat :=
  (List.range (countSizes start stop step)).map fun (k : Nat) => (start + k * step).toNat

variable {start stop step : Int}

theorem lt_countSizes_iff (hstep : 0 < step) (k : Nat) :
    k < countSizes start stop step ↔ start + k * step ≤ stop := by
  rw [countSizes, Int.lt_toNat, Int.lt_add_one_iff, Int.le_ediv_iff_mul_le hstep]
  omega

theorem sizesUpTo_of_lt (h : start ≤ stop) (hbeyond : stop < start + step) :
    sizesUpTo start stop step = [start.toNat] := by
  have hcount : countSizes start stop step = 1 := by
    rw [countSizes, Int.ediv_eq_zero_of_lt (by omega) (by omega)]
    rfl
  rw [sizesUpTo, hcount]
  simp

/-- If one step does not lead beyond the end, the other sizes are those after that step. -/
theorem sizesUpTo_of_le (hstep : 0 < step) (h : start + step ≤ stop) :
    sizesUpTo start stop step = start.toNat :: sizesUpTo (start + step) stop step := by
  have hquotient : (stop - start) / step = (stop - (start + step)) / step + 1 := by
    have hadd := Int.add_mul_ediv_right (stop - (start + step)) 1 (Int.ne_of_gt hstep)
    rwa [Int.one_mul, show stop - (start + step) + step = stop - start by omega] at hadd
  have hnonneg : 0 ≤ (stop - (start + step)) / step := Int.ediv_nonneg (by omega) (by omega)
  have hcount : countSizes start stop step = countSizes (start + step) stop step + 1 := by
    rw [countSizes, countSizes, hquotient]
    omega
  rw [sizesUpTo, hcount, List.range_succ_eq_map, List.map_cons, List.map_map, sizesUpTo]
  congr 1
  · simp
  · refine List.map_congr_left fun k _ => ?_
    show (start + ((k + 1 : Nat) : Int) * step).toNat = (start + step + k * step).toNat
    rw [Int.natCast_add, Int.add_mul]
    congr 1
    omega

theorem getElem?_sizesUpTo_eq_some_iff (stop : Int) (hstart : 0 < start) (hstep : 0 < step)
    (k size : Nat) :
    (sizesUpTo start stop step)[k]? = some size ↔
      (size : Int) = start + k * step ∧ size ≤ stop := by
  have hnonneg : 0 ≤ (k : Int) * step := Int.mul_nonneg (by omega) (by omega)
  rw [sizesUpTo, List.getElem?_map]
  by_cases hk : k < countSizes start stop step
  · have hle := (lt_countSizes_iff hstep k).mp hk
    rw [List.getElem?_range hk, Option.map_some, Option.some.injEq]
    omega
  · have hlt : ¬ start + k * step ≤ stop := fun hle => hk ((lt_countSizes_iff hstep k).mpr hle)
    rw [List.getElem?_eq_none (by rw [List.length_range]; omega), Option.map_none]
    constructor
    · rintro ⟨⟩
    · rintro ⟨hsize, hle⟩
      omega

theorem isProgression_sizesUpTo (hstep : 0 < step) (hrange : start ≤ stop) (hstart : 0 < start) :
    IsProgression start stop step (sizesUpTo start stop step) := by
  have hlength : (sizesUpTo start stop step).length =
      countSizes start stop step := by
    rw [sizesUpTo, List.length_map, List.length_range]
  have hquotient : 0 ≤ (stop - start) / step := Int.ediv_nonneg (by omega) (by omega)
  have hcount : (countSizes start stop step : Int) = (stop - start) / step + 1 :=
    Int.toNat_of_nonneg (by omega)
  have hplace := getElem?_sizesUpTo_eq_some_iff stop hstart hstep
  refine ⟨hplace, ?_, by rw [hlength, hcount], ?_, ?_⟩
  · rw [sizesUpTo, List.pairwise_map]
    refine List.pairwise_lt_range.imp fun {j k} hjk => ?_
    have hj : 0 ≤ (j : Int) * step := Int.mul_nonneg (by omega) (by omega)
    have hlt : (j : Int) * step < k * step := Int.mul_lt_mul_of_pos_right (by omega) hstep
    omega
  · refine ⟨start.toNat, ?_, by omega⟩
    rw [List.head?_eq_getElem?, hplace]
    omega
  · -- the last size is as many steps away as fit in between
    have hfloor := Int.ediv_mul_le (stop - start) (Int.ne_of_gt hstep)
    have hceil := Int.lt_ediv_add_one_mul_self (stop - start) hstep
    rw [Int.add_mul, Int.one_mul] at hceil
    have hsteps : 0 ≤ (stop - start) / step * step := Int.mul_nonneg hquotient (by omega)
    refine ⟨(start + (stop - start) / step * step).toNat, ?_, by omega⟩
    rw [List.getLast?_eq_getElem?, hlength, hplace,
      show ((countSizes start stop step - 1 : Nat) : Int) = (stop - start) / step by omega]
    omega

theorem IsProgression.ne_nil {sizes : List Nat} (h : IsProgression start stop step sizes) :
    sizes ≠ [] := by
  rintro rfl
  obtain ⟨size, hsize, -⟩ := h.first
  cases hsize

theorem IsProgression.unique {sizes sizes' : List Nat} (h : IsProgression start stop step sizes)
    (h' : IsProgression start stop step sizes') : sizes = sizes' := by
  refine List.ext_getElem? fun k => Option.ext fun size => ?_
  rw [h.place, h'.place]

/-! ### Walking through a range -/

/-- A number is a signed number of 64 bits. -/
def IsWord (n : Int) : Prop := -(Text.int64Limit : Int) ≤ n ∧ n < Text.int64Limit

instance (n : Int) : Decidable (IsWord n) := inferInstanceAs (Decidable (_ ∧ _))

/-- Machine words are words. -/
theorem isWord_toInt (n : Int64) : IsWord n.toInt := ⟨n.le_toInt, n.toInt_lt⟩

/-- A walk from a number above zero gives the sizes of the range that are left. -/
theorem walk_of_pos (hstop : IsWord stop) (gap : Nat) (next : Int) (skip : Nat)
    (hpos : 0 < next + skip) (hle : next + skip ≤ stop) :
    walk stop gap next skip = .ok (sizesUpTo (next + skip) stop (gap + 1)) := by
  have hupper := hstop.2
  have hsize : positiveItems (next + skip) = .ok (next + skip).toNat := if_pos hpos
  rw [walk, if_neg (by omega)]
  by_cases hlast : next + skip = stop
  · rw [if_pos hlast, hsize, sizesUpTo_of_lt hle (by omega)]
    rfl
  · rw [if_neg hlast, hsize]
    show (walk stop gap (next + skip + 1) gap).map _ = _
    by_cases hbeyond : stop < next + skip + (gap + 1)
    · -- the next sum is beyond the end, whether it has 64 bits or not
      have hend : walk stop gap (next + skip + 1) gap = .ok [] := by
        rw [walk, if_pos (Or.inr (by omega))]
      rw [sizesUpTo_of_lt hle hbeyond, hend]
      rfl
    · have hnext : next + skip + 1 + gap = next + skip + (gap + 1) := by omega
      have ih := walk_of_pos hstop gap (next + skip + 1) gap (by omega) (by omega)
      rw [sizesUpTo_of_le (by omega) (by omega), ← hnext, ih]
      rfl
termination_by (stop - next).toNat

/-- A walk from a number that is not above zero is refused for that number. -/
theorem walk_of_nonpos (hstop : IsWord stop) (gap : Nat) {next : Int} (hle : next ≤ stop)
    (hnonpos : next ≤ 0) : walk stop gap next 0 = .error (.nonPositiveItems next) := by
  have hupper := hstop.2
  have hnone : next + ((0 : Nat) : Int) = next := Int.add_zero next
  have hsize : positiveItems next = .error (.nonPositiveItems next) := if_neg (by omega)
  rw [walk, hnone, if_neg (by omega), hsize]
  by_cases hlast : next = stop
  · rw [if_pos hlast]
    rfl
  · rw [if_neg hlast]

theorem itemsRange_of_pos (hstop : IsWord stop) (hstep : 0 < step) (hrange : start ≤ stop)
    (hstart : 0 < start) : itemsRange start stop step = .ok (sizesUpTo start stop step) := by
  have hnone : start + ((0 : Nat) : Int) = start := Int.add_zero start
  have hgap : ((step.toNat - 1 : Nat) : Int) + 1 = step := by omega
  rw [itemsRange, if_neg (by omega), if_neg (by omega),
    walk_of_pos hstop (step.toNat - 1) start 0 (by omega) (by omega), hnone, hgap]

/-- What is wrong with a range, in the order of the checks. -/
inductive RangeFault (start stop step : Int) : Refusal → Prop where
  | step (h : step ≤ 0) : RangeFault start stop step .step
  | range (hstep : 0 < step) (h : stop < start) : RangeFault start stop step .range
  | start (hstep : 0 < step) (hrange : start ≤ stop) (h : start ≤ 0) :
    RangeFault start stop step (.nonPositiveItems start)

theorem RangeFault.unique {start stop step : Int} {e e' : Refusal}
    (h : RangeFault start stop step e) (h' : RangeFault start stop step e') : e = e' := by
  cases h <;> cases h' <;> first | rfl | omega

/-- A range gives sizes, or it has a fault. -/
theorem itemsRange_cases (hstop : IsWord stop) (start step : Int) :
    (itemsRange start stop step = .ok (sizesUpTo start stop step) ∧
        0 < step ∧ start ≤ stop ∧ 0 < start) ∨
      ∃ e, itemsRange start stop step = .error e ∧ RangeFault start stop step e := by
  by_cases hstep : step ≤ 0
  · exact Or.inr ⟨.step, by rw [itemsRange, if_pos hstep], .step hstep⟩
  · by_cases hrange : stop < start
    · refine Or.inr ⟨.range, ?_, .range (by omega) hrange⟩
      rw [itemsRange, if_neg hstep, if_pos hrange]
    · by_cases hstart : start ≤ 0
      · refine Or.inr ⟨.nonPositiveItems start, ?_, .start (by omega) (by omega) hstart⟩
        rw [itemsRange, if_neg hstep, if_neg hrange, walk_of_nonpos hstop _ (by omega) hstart]
      · have hpos : 0 < step := by omega
        have hle : start ≤ stop := by omega
        have hstart : 0 < start := by omega
        exact Or.inl ⟨itemsRange_of_pos hstop hpos hle hstart, hpos, hle, hstart⟩

theorem itemsRange_eq_ok_iff (hstop : IsWord stop) {sizes : List Nat} :
    itemsRange start stop step = .ok sizes ↔
      (0 < step ∧ start ≤ stop ∧ 0 < start) ∧ IsProgression start stop step sizes := by
  constructor
  · intro h
    rcases itemsRange_cases hstop start step with ⟨hok, hstep, hrange, hstart⟩ | ⟨e, herror, -⟩
    · obtain rfl := Except.ok.inj (hok.symm.trans h)
      exact ⟨⟨hstep, hrange, hstart⟩, isProgression_sizesUpTo hstep hrange hstart⟩
    · cases herror.symm.trans h
  · rintro ⟨⟨hstep, hrange, hstart⟩, hsizes⟩
    rw [itemsRange_of_pos hstop hstep hrange hstart,
      hsizes.unique (isProgression_sizesUpTo hstep hrange hstart)]

theorem itemsRange_eq_error_iff (hstop : IsWord stop) {e : Refusal} :
    itemsRange start stop step = .error e ↔ RangeFault start stop step e := by
  rcases itemsRange_cases hstop start step with ⟨hok, hstep, hrange, hstart⟩ | ⟨e', herror, hfault⟩
  · rw [hok]
    constructor
    · rintro ⟨⟩
    · intro h
      cases h <;> omega
  · rw [herror]
    constructor
    · rintro ⟨⟩
      exact hfault
    · intro h
      rw [hfault.unique h]

/-! ### Sums of 64 bits -/

/-- A walk that has no outcome where the number after a size has more than 64 bits. -/
def guardedWalk (stop : Int) (gap : Nat) (next : Int) (skip : Nat) :
    Option (Except Refusal (List Nat)) :=
  if ¬ IsWord (next + skip) ∨ stop < next + skip then some (.ok [])
  else if next + skip = stop then some ((positiveItems (next + skip)).map ([·]))
  else if ¬ IsWord (next + skip + 1) then none
  else
    match positiveItems (next + skip) with
    | .error e => some (.error e)
    | .ok size => (guardedWalk stop gap (next + skip + 1) gap).map (·.map (size :: ·))
termination_by (stop - next).toNat
decreasing_by omega

/-- The sizes of a range, from one to the next.  There is no outcome if a sum overflows. -/
def walked (start stop step : Int) : Option (Except Refusal (List Nat)) :=
  if step ≤ 0 then some (.error .step)
  else if stop < start then some (.error .range)
  else guardedWalk stop (step.toNat - 1) start 0

/-- A guard finds nothing to stop: what comes after a size is at most the end. -/
theorem guardedWalk_eq (hstop : IsWord stop) (gap : Nat) (next : Int) (skip : Nat)
    (hnext : IsWord next) : guardedWalk stop gap next skip = some (walk stop gap next skip) := by
  obtain ⟨hlower, -⟩ := hnext
  have hupper := hstop.2
  rw [guardedWalk, walk]
  by_cases hend : (Text.int64Limit : Int) ≤ next + skip ∨ stop < next + skip
  · have hover : ¬ IsWord (next + skip) ∨ stop < next + skip :=
      hend.imp_left fun h hword => absurd hword.2 (by omega)
    rw [if_pos hover, if_pos hend]
  · have hword : ¬ (¬ IsWord (next + skip) ∨ stop < next + skip) := by
      simp only [IsWord]
      omega
    rw [if_neg hword, if_neg hend]
    by_cases hlast : next + skip = stop
    · rw [if_pos hlast, if_pos hlast]
    · have hsum : IsWord (next + skip + 1) := ⟨by omega, by omega⟩
      rw [if_neg hlast, if_neg hlast, if_neg (not_not_intro hsum)]
      rcases positiveItems (next + skip) with e | size
      · rfl
      · show (guardedWalk stop gap (next + skip + 1) gap).map _ = _
        rw [guardedWalk_eq hstop gap (next + skip + 1) gap hsum]
        rfl
termination_by (stop - next).toNat

/-- A guarded walk through a range of words finds what the range gives. -/
theorem walked_eq (hstart : IsWord start) (hstop : IsWord stop) :
    walked start stop step = some (itemsRange start stop step) := by
  rw [walked, itemsRange]
  by_cases hstep : step ≤ 0
  · rw [if_pos hstep, if_pos hstep]
  · rw [if_neg hstep, if_neg hstep]
    by_cases hrange : stop < start
    · rw [if_pos hrange, if_pos hrange]
    · rw [if_neg hrange, if_neg hrange, guardedWalk_eq hstop _ start 0 hstart]

/-- **A range gives exactly the sizes between its ends.**  A step that is not above zero, an end
before the start and a start that is not above zero are refused, in this order; the sizes of any
other range are those that whole steps lead to, in order; and they are found without a sum of more
than 64 bits, however close to that limit the end and the step are. -/
theorem itemsRange_progresses (start stop step : Int64) :
    (∀ e, itemsRange start.toInt stop.toInt step.toInt = .error e ↔
        RangeFault start.toInt stop.toInt step.toInt e) ∧
      (∀ sizes, itemsRange start.toInt stop.toInt step.toInt = .ok sizes ↔
        (0 < step.toInt ∧ start.toInt ≤ stop.toInt ∧ 0 < start.toInt) ∧
          IsProgression start.toInt stop.toInt step.toInt sizes) ∧
      walked start.toInt stop.toInt step.toInt =
        some (itemsRange start.toInt stop.toInt step.toInt) :=
  ⟨fun _ => itemsRange_eq_error_iff (isWord_toInt stop),
    fun _ => itemsRange_eq_ok_iff (isWord_toInt stop),
    walked_eq (isWord_toInt start) (isWord_toInt stop)⟩

/-- One step from the start is a number of more than 64 bits. -/
example : walked 2 9223372036854775807 9223372036854775806 = some (.ok [2]) := by
  rw [walked_eq (by decide) (by decide), itemsRange_of_pos (by decide) (by decide) (by decide)
    (by decide), sizesUpTo_of_lt (by decide) (by decide)]
  rfl

end QueueDrain.Plan
