import QueueDrain.Heap.Summary
import QueueDrain.Proofs.Binary64.Nearest

/-!
The places of percentiles.

The double next to ninety-five hundredths lies below them, so for every twentieth length the exact
product falls short of the whole number that is the place.  It falls short by less than half of the
last bit that a double of that size has, and so the rounded product does not; and as long as there
are bits enough after the point, no other product is rounded up to a whole number
(`floor_significant`).  The same goes for ninety-nine hundredths.

* `Percentiles`: the places among so many values, and how they come about;
* `percentiles`: this is so for all lengths of up to forty-six bits.
-/

namespace QueueDrain.Heap

open Binary64

/-- A double that is no more than so many hundredths, and as near to them as `m` parts in `2 ^ 53`
are. -/
structure IsPercent (q : Binary64) (c m : Nat) : Prop where
  finite : q.isFinite = true
  sign : q.negative = false
  units : q.units * 2 ^ 53 = m * unitsPerOne
  bits : binade ≤ q.units
  lt_one : q.units < unitsPerOne
  range : 90 ≤ c ∧ c ≤ 99
  le : 100 * m ≤ c * 2 ^ 53
  near : c * 2 ^ 53 ≤ 100 * m + 40

theorem isPercent_p95 : IsPercent p95 95 8556839292003942 := by
  constructor <;> decide +kernel

theorem isPercent_p99 : IsPercent p99 99 8917127262193582 := by
  constructor <;> decide +kernel

variable {q : Binary64} {c m n : Nat}

theorem IsPercent.value (h : IsPercent q c m) : q.value = m / 2 ^ 53 := by
  have hunits : (unitsPerOne : ℚ) ≠ 0 := Nat.cast_ne_zero.mpr (Nat.ne_of_gt unitsPerOne_pos)
  rw [value_of_not_negative h.sign, div_eq_div_iff hunits (by positivity)]
  exact_mod_cast h.units

/-- The exact product with a length falls short of so many hundredths of it by less than the double
does for each of its parts. -/
theorem IsPercent.product_bounds (h : IsPercent q c m) (n : Nat) :
    100 * (n * (m / 2 ^ 53) : ℚ) ≤ c * n ∧
      (c * n : ℚ) ≤ 100 * (n * (m / 2 ^ 53)) + 40 * n / 2 ^ 53 ∧
      8 / 10 * (n : ℚ) ≤ n * (m / 2 ^ 53) ∧ (n * (m / 2 ^ 53) : ℚ) ≤ n := by
  have hle : (100 * m : ℚ) ≤ c * 2 ^ 53 := by exact_mod_cast h.le
  have hnear : (c * 2 ^ 53 : ℚ) ≤ 100 * m + 40 := by exact_mod_cast h.near
  have hrange : (90 : ℚ) ≤ c ∧ (c : ℚ) ≤ 99 := by exact_mod_cast h.range
  have hn : (0 : ℚ) ≤ n := Nat.cast_nonneg n
  set x : ℚ := n * (m / 2 ^ 53) with hx
  have hscaled : x * 2 ^ 53 = n * m := by rw [hx]; ring
  refine ⟨?_, ?_, ?_, ?_⟩ <;> nlinarith

/-- **No place is lost to rounding, and none is gained.** -/
theorem IsPercent.floor_significant (h : IsPercent q c m) (hpos : 0 < n) (hn : n < 2 ^ 46) :
    ⌊significant (n * (m / 2 ^ 53))⌋ = (c * n / 100 : Nat) := by
  obtain ⟨hupper, hlower, hsize, hbelow⟩ := h.product_bounds n
  have hn0 : (0 : ℚ) < n := by exact_mod_cast hpos
  have hn46 : (n : ℚ) < 2 ^ (46 : ℤ) := by exact_mod_cast hn
  -- the place and what is left of the hundredths
  have hplace : (100 * (c * n / 100 : Nat) + (c * n % 100 : Nat) : ℚ) = c * n := by
    exact_mod_cast Nat.div_add_mod (c * n) 100
  have hrest : ((c * n % 100 : Nat) : ℚ) ≤ 99 := by
    exact_mod_cast Nat.le_of_lt_succ (Nat.mod_lt (c * n) (by decide))
  have hrest0 : (0 : ℚ) ≤ (c * n % 100 : Nat) := Nat.cast_nonneg _
  generalize (n * (m / 2 ^ 53) : ℚ) = x at *
  have hlast : lastBit x ≤ -7 := by
    have hlt := lastBit_lt (by linarith) (lt_of_le_of_lt hbelow hn46)
    omega
  -- half of the last bit is more than what the product falls short by, and less than a hundredth
  have hspan := lt_pow_lastBit x
  rw [zpow_add₀ two_ne_zero] at hspan
  have hbit : (2 : ℚ) ^ lastBit x ≤ 2 ^ (-7 : ℤ) := zpow_le_zpow_right₀ (by norm_num) hlast
  norm_num at hspan hbit hlower
  refine Binary64.floor_significant (by omega) ?_ ?_
  · rw [Int.cast_natCast]
    linarith
  · rw [Int.cast_natCast]
    linarith

/-- What the place of a percentile among `n` values comes from, and what is found there. -/
structure Placed (n : Nat) (q : Binary64) (c : Nat) : Prop where
  /-- The length is exact as a double. -/
  length : (Binary64.ofNat n).value = n
  /-- Its product with the quantile is the exact one with fifty-three bits. -/
  product : (Binary64.ofNat n * q).isFinite ∧
    (Binary64.ofNat n * q).value = significant (n * q.value)
  /-- The place is so many hundredths of the length, rounded down. -/
  place : rankIndex n q = c * n / 100
  /-- There is such a place, so it is not cut off at the last one. -/
  lt : rankIndex n q < n
  found : ∀ sorted : List Binary64, sorted.length = n →
    ∃ h : c * n / 100 < sorted.length, nearestRank? sorted q = some sorted[c * n / 100]

/-- The product of a length and a percentile, and its whole part. -/
theorem IsPercent.mul_ofNat (h : IsPercent q c m) (hpos : 1 ≤ n) (hn : n < 2 ^ 46) :
    (Binary64.ofNat n * q).isFinite ∧
      (Binary64.ofNat n * q).value = significant (n * q.value) ∧
      wholePart (Binary64.ofNat n * q).value = (c * n / 100 : Nat) := by
  have hnat := value_ofNat hpos (Nat.lt_trans hn (Nat.pow_lt_pow_right (by decide) (by decide)))
  have hbelow : (Binary64.ofNat n).units < 2 ^ safeBits :=
    Nat.lt_of_lt_of_le (ofNat_isBelow hn (by decide +kernel)).2
      (Nat.pow_le_pow_right (by decide) (by decide +kernel))
  -- the length is at least one and the percentile is below one
  have hbits : binade ≤ (Binary64.ofNat n).units * q.units / unitsPerOne := by
    rw [Nat.le_div_iff_mul_le unitsPerOne_pos, Nat.mul_comm binade]
    exact Nat.mul_le_mul (le_units_ofNat hpos) h.bits
  have hle : (Binary64.ofNat n).units * q.units / unitsPerOne ≤ (Binary64.ofNat n).units := by
    refine Nat.div_le_of_le_mul ?_
    rw [Nat.mul_comm unitsPerOne]
    exact Nat.mul_le_mul_left _ (Nat.le_of_lt h.lt_one)
  have hsafe := Nat.lt_of_le_of_lt hle hbelow
  obtain ⟨hfinite, hsign, hvalue⟩ := value_mul hnat.1 h.finite hnat.2.1 h.sign hbits hsafe
  rw [hnat.2.2] at hvalue
  refine ⟨hfinite, hvalue, ?_⟩
  rw [wholePart, if_pos (value_nonneg hsign), hvalue, h.value, h.floor_significant hpos hn]

theorem IsPercent.rankIndex_eq (h : IsPercent q c m) (hpos : 1 ≤ n) (hn : n < 2 ^ 46) :
    rankIndex n q = c * n / 100 := by
  obtain ⟨hfinite, -, hwhole⟩ := h.mul_ofNat hpos hn
  have hplace : c * n / 100 ≤ n := by
    rw [Nat.div_le_iff_le_mul (by decide)]
    have hle := Nat.mul_le_mul_right n h.range.2
    omega
  rw [rankIndex, truncate_eq (not_isNaN_of_isFinite hfinite) (by decide +kernel)
    (by decide +kernel) (by decide +kernel), hwhole]
  have hsize : ((UInt64.size : Nat) : ℤ) = 2 ^ 64 := by decide
  omega

theorem IsPercent.placed (h : IsPercent q c m) (hpos : 1 ≤ n) (hn : n < 2 ^ 46) : Placed n q c := by
  have hplace := h.rankIndex_eq hpos hn
  have hlt : rankIndex n q < n := by
    rw [hplace, Nat.div_lt_iff_lt_mul (by decide)]
    have hle := Nat.mul_le_mul_right n h.range.2
    omega
  obtain ⟨hfinite, hvalue, -⟩ := h.mul_ofNat hpos hn
  refine ⟨(value_ofNat hpos (Nat.lt_trans hn (by decide))).2.2, ⟨hfinite, hvalue⟩, hplace, hlt, ?_⟩
  rintro sorted rfl
  rw [← hplace]
  exact ⟨hlt, by rw [nearestRank?, Nat.min_eq_left (Nat.le_sub_one_of_lt hlt),
    List.getElem?_eq_getElem hlt]⟩

/-- The places of the percentiles among `n` values. -/
structure Percentiles (n : Nat) : Prop where
  p95_value : p95.value = 8556839292003942 / 2 ^ 53
  p99_value : p99.value = 8917127262193582 / 2 ^ 53
  p95_placed : Placed n p95 95
  p99_placed : Placed n p99 99
  p95_le_p99 : rankIndex n p95 ≤ rankIndex n p99

/-- **The places of the percentiles are so many hundredths of the length, rounded down**, although
the doubles that stand for the hundredths are too small. -/
theorem percentiles (hpos : 1 ≤ n) (hn : n < 2 ^ 46) : Percentiles n := by
  refine ⟨isPercent_p95.value, isPercent_p99.value, isPercent_p95.placed hpos hn,
    isPercent_p99.placed hpos hn, ?_⟩
  rw [isPercent_p95.rankIndex_eq hpos hn, isPercent_p99.rankIndex_eq hpos hn]
  exact Nat.div_le_div_right (Nat.mul_le_mul_right n (by decide))

/-- The greatest length of this kind whose exact product with the double is short of the place. -/
theorem percentiles_full :
    1 ≤ 70368744177660 ∧ 70368744177660 < 2 ^ 46 ∧ 100 * 66850306968777 = 95 * 70368744177660 ∧
      70368744177660 * 8556839292003942 < 66850306968777 * 2 ^ 53 ∧ Percentiles 70368744177660 ∧
      rankIndex 70368744177660 p95 = 66850306968777 := by
  have h := percentiles (n := 70368744177660) (by decide) (by decide)
  exact ⟨by decide, by decide, by decide, by decide, h, h.p95_placed.place⟩

end QueueDrain.Heap
