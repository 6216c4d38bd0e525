import Mathlib.Data.Rat.Floor
import QueueDrain.Proofs.Binary64.Rounding

/-!
The whole parts of doubles.

A double is cut off toward zero (`wholePart`), and what is then outside the bounds is moved to the
nearer one (`truncate_eq`).  Whole numbers that are no doubles may become smaller or larger when
they are rounded, but do not get past a power of two (`pow_le_units_ofInt`); so a number that is out
of bounds which are powers of two stays out of them (`wholePart_ofInt_of_pow_le`).
-/

namespace QueueDrain.Binary64

/-! ### Values -/

/-- The value of a double; that of an infinity is the first power of two that is too large. -/
def value (x : Binary64) : ℚ := x.signedUnits / unitsPerOne

/-- A rational number cut off toward zero. -/
def wholePart (q : ℚ) : ℤ := if 0 ≤ q then ⌊q⌋ else ⌈q⌉

theorem wholePart_neg (q : ℚ) : wholePart (-q) = -wholePart q := by
  rcases lt_trichotomy q 0 with hneg | rfl | hpos
  · rw [wholePart, wholePart, if_pos (neg_nonneg.mpr hneg.le), if_neg (not_le.mpr hneg),
      Int.floor_neg]
  · simp [wholePart]
  · rw [wholePart, wholePart, if_neg (not_le.mpr (neg_lt_zero.mpr hpos)), if_pos hpos.le,
      Int.ceil_neg]

theorem wholePart_intCast (n : ℤ) : wholePart n = n := by
  rw [wholePart, Int.floor_intCast, Int.ceil_intCast, ite_self]

theorem wholePart_natCast_div (n d : Nat) : wholePart (n / d) = (n / d : Nat) := by
  rw [wholePart, if_pos (by positivity), Rat.floor_natCast_div_natCast, Int.natCast_div]

theorem le_wholePart {n : ℤ} {q : ℚ} (hn : 0 ≤ n) (h : n ≤ q) : n ≤ wholePart q := by
  have hq : 0 ≤ q := le_trans (Int.cast_nonneg hn) h
  rw [wholePart, if_pos hq]
  exact Int.le_floor.mpr h

theorem wholePart_le {n : ℤ} {q : ℚ} (hn : n ≤ 0) (h : q ≤ n) : wholePart q ≤ n := by
  have hneg := le_wholePart (n := -n) (q := -q) (by omega) (by push_cast; linarith)
  rw [wholePart_neg] at hneg
  omega

/-- Only what is between minus one and one has no whole part. -/
theorem wholePart_eq_zero_iff (q : ℚ) : wholePart q = 0 ↔ |q| < 1 := by
  rw [wholePart, abs_lt]
  split
  next hq =>
    rw [Int.floor_eq_zero_iff, Set.mem_Ico]
    exact ⟨fun h => ⟨by linarith, h.2⟩, fun h => ⟨hq, h.2⟩⟩
  next hq =>
    rw [Int.ceil_eq_zero_iff, Set.mem_Ioc]
    have hneg := not_le.mp hq
    exact ⟨fun h => ⟨h.1, by linarith⟩, fun h => ⟨h.1, hneg.le⟩⟩

theorem value_of_negative {x : Binary64} (h : x.negative = true) :
    x.value = -((x.units : ℚ) / unitsPerOne) := by
  rw [value, signedUnits, if_pos h, Int.cast_neg, Int.cast_natCast, neg_div]

theorem value_of_not_negative {x : Binary64} (h : x.negative = false) :
    x.value = (x.units : ℚ) / unitsPerOne := by
  rw [value, signedUnits, h, if_neg Bool.false_ne_true, Int.cast_natCast]

theorem value_nonneg {x : Binary64} (h : x.negative = false) : 0 ≤ x.value := by
  rw [value_of_not_negative h]
  exact div_nonneg (Nat.cast_nonneg _) (Nat.cast_nonneg _)

theorem wholePart_value (x : Binary64) :
    wholePart x.value =
      if x.negative then -((x.units / unitsPerOne : Nat) : ℤ)
      else (x.units / unitsPerOne : Nat) := by
  cases h : x.negative with
  | true => rw [value_of_negative h, wholePart_neg, wholePart_natCast_div, if_pos rfl]
  | false =>
    rw [value_of_not_negative h, wholePart_natCast_div, if_neg Bool.false_ne_true]

/-- **A double is cut off toward zero and then clamped**, whatever its size. -/
theorem truncate_eq {x : Binary64} (hx : x.isNaN = false) {lo hi : ℤ} (hle : lo ≤ hi)
    (hlo : -(2 ^ infinityBits : ℤ) ≤ lo) (hhi : hi ≤ 2 ^ infinityBits) :
    x.truncate lo hi = max lo (min hi (wholePart x.value)) := by
  rw [truncate, hx, if_neg Bool.false_ne_true, wholePart_value]
  by_cases hinfinite : x.isInfinite
  · have hunits : x.units / unitsPerOne = 2 ^ infinityBits := by
      rw [units, beq_iff_eq.mp hinfinite, unitsOf_infinityMagnitude, unitsPerOne_eq, Nat.pow_add,
        Nat.mul_div_cancel _ (Nat.two_pow_pos _)]
    have hcast : ((2 ^ infinityBits : Nat) : ℤ) = 2 ^ infinityBits := by push_cast; rfl
    rw [if_pos hinfinite, hunits, hcast]
    generalize (2 : ℤ) ^ infinityBits = bound at hlo hhi
    cases x.negative
    · rw [if_neg Bool.false_ne_true, if_neg Bool.false_ne_true]
      omega
    · rw [if_pos rfl, if_pos rfl]
      omega
  · rw [if_neg hinfinite]

/-! ### Whole numbers that are rounded -/

theorem isNaN_ofInt (n : ℤ) : (ofInt n).isNaN = false :=
  decide_eq_false (Nat.not_lt.mpr (Nat.min_le_right _ _))

/-- **Rounding a whole number does not take it past a power of two.** -/
theorem pow_le_units_ofInt {bits : Nat} (hbits : bits ≤ infinityBits) {n : ℤ}
    (h : 2 ^ bits ≤ n.natAbs) : 2 ^ bits ≤ (ofInt n).units / unitsPerOne := by
  rw [Nat.le_div_iff_mul_le unitsPerOne_pos, unitsPerOne_eq, ← Nat.pow_add]
  refine pow_le_units_ofQuotient _ ?_ (Nat.add_le_add_right hbits _)
  rw [Nat.div_one, unitsPerOne_eq, Nat.pow_add]
  exact Nat.mul_le_mul_right _ h

/-- So what is out of bounds that are powers of two is so as a double, too, and on the same side. -/
theorem wholePart_ofInt_of_pow_le {bits : Nat} (hbits : bits ≤ infinityBits) {n : ℤ}
    (h : 2 ^ bits ≤ n.natAbs) :
    (0 ≤ n → ((2 ^ bits : Nat) : ℤ) ≤ wholePart (ofInt n).value) ∧
      (n < 0 → wholePart (ofInt n).value ≤ -((2 ^ bits : Nat) : ℤ)) := by
  have hunits := Int.ofNat_le.mpr (pow_le_units_ofInt hbits h)
  have hnegative : (ofInt n).negative = decide (n < 0) := rfl
  rw [wholePart_value, hnegative]
  constructor
  · intro hn
    rwa [decide_eq_false (Int.not_lt.mpr hn), if_neg Bool.false_ne_true]
  · intro hn
    rw [decide_eq_true hn, if_pos rfl]
    exact Int.neg_le_neg hunits

end QueueDrain.Binary64
