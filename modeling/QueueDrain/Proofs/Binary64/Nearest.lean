import Mathlib.Data.Int.Log
import QueueDrain.Proofs.Binary64.Whole

/-!
The nearest doubles.

Apart from the very small and the very large ones, an exact result is rounded to fifty-three
significant bits (`significant`): that is what becomes of quotients of units (`value_ofQuotient`),
so of products (`value_mul`), and of whole numbers, which keep their value as long as they have no
more bits than that (`value_ofNat`).
-/

namespace QueueDrain.Binary64

/-! ### Whole numbers next to a rational one -/

/-- The whole number nearest to a rational one; of two equally near ones the even one. -/
def nearestEven (q : ℚ) : ℤ :=
  if q - ⌊q⌋ < 1 / 2 then ⌊q⌋ else if q - ⌊q⌋ = 1 / 2 then ⌊q⌋ + ⌊q⌋ % 2 else ⌊q⌋ + 1

variable {q : ℚ}

theorem floor_le_nearestEven (q : ℚ) : ⌊q⌋ ≤ nearestEven q := by
  rw [nearestEven]
  split
  · exact le_refl _
  · split <;> omega

/-- It is no more than a half above. -/
theorem nearestEven_le (q : ℚ) : (nearestEven q : ℚ) ≤ q + 1 / 2 := by
  have hfloor := Int.floor_le q
  rw [nearestEven]
  split
  next hlow => linarith
  next hlow =>
    split
    next htie =>
      have hbit : ((⌊q⌋ % 2 : ℤ) : ℚ) ≤ 1 := by exact_mod_cast (by omega : ⌊q⌋ % 2 ≤ 1)
      push_cast
      linarith
    next htie =>
      push_cast
      linarith

/-- What is less than a half above is not passed over. -/
theorem le_nearestEven {k : ℤ} (h : (k : ℚ) - 1 / 2 < q) : k ≤ nearestEven q := by
  by_cases hle : k ≤ ⌊q⌋
  · exact le_trans hle (floor_le_nearestEven q)
  · -- then the whole number above is the next one, and nearer
    have hlt := Int.lt_floor_add_one q
    have hk : k = ⌊q⌋ + 1 := by
      have hupper : (k : ℚ) < ⌊q⌋ + 2 := by linarith
      have hupper' : k < ⌊q⌋ + 2 := by exact_mod_cast hupper
      omega
    have hfraction : 1 / 2 < q - ⌊q⌋ := by
      rw [hk] at h
      push_cast at h
      linarith
    rw [nearestEven, if_neg (not_lt.mpr hfraction.le), if_neg hfraction.ne', hk]

theorem nearestEven_intCast (k : ℤ) : nearestEven k = k := by
  rw [nearestEven, Int.floor_intCast, sub_self, if_pos (by norm_num)]

/-- Rounding a quotient of natural numbers takes no more than their remainder. -/
theorem nearestEven_natCast_div (n : Nat) {d : Nat} (hd : 0 < d) :
    nearestEven (n / d) = roundQuotient n d := by
  have hd' : (0 : ℚ) < d := by exact_mod_cast hd
  have hfloor : ⌊(n / d : ℚ)⌋ = (n / d : Nat) := by
    rw [Rat.floor_natCast_div_natCast, Int.natCast_div]
  have hfraction : (n / d : ℚ) - ((n / d : Nat) : ℤ) = (n % d : Nat) / d := by
    have hsplit : (n : ℚ) = d * (n / d : Nat) + (n % d : Nat) := by
      exact_mod_cast (Nat.div_add_mod n d).symm
    rw [Int.cast_natCast, eq_div_iff hd'.ne', sub_mul, div_mul_cancel₀ _ hd'.ne']
    linarith
  have hlow : ((n % d : Nat) / d : ℚ) < 1 / 2 ↔ 2 * (n % d) < d := by
    rw [div_lt_div_iff₀ hd' two_pos, one_mul, mul_comm]
    norm_cast
  have htie : ((n % d : Nat) / d : ℚ) = 1 / 2 ↔ 2 * (n % d) = d := by
    rw [div_eq_div_iff hd'.ne' two_ne_zero, one_mul, mul_comm]
    norm_cast
  rw [nearestEven, hfloor, hfraction, roundQuotient]
  simp only [hlow, htie]
  split
  · rfl
  · split
    · push_cast
      rfl
    · push_cast
      rfl

/-! ### Fifty-three bits -/

/-- The exponent of the last of fifty-three bits of a positive rational number. -/
def lastBit (q : ℚ) : ℤ := Int.log 2 q - 52

/-- A positive rational number rounded to fifty-three significant bits, ties to even. -/
def significant (q : ℚ) : ℚ := nearestEven (q / 2 ^ lastBit q) * 2 ^ lastBit q

theorem log_eq {z : ℤ} (hlow : 2 ^ z ≤ q) (hhigh : q < 2 ^ (z + 1)) : Int.log 2 q = z := by
  have hq : 0 < q := lt_of_lt_of_le (zpow_pos two_pos _) hlow
  have hle := (Int.zpow_le_iff_le_log (b := 2) (by norm_num) hq).mp (by exact_mod_cast hlow)
  have hlt := (Int.lt_zpow_iff_log_lt (b := 2) (by norm_num) hq).mp (by exact_mod_cast hhigh)
  omega

theorem lt_pow_lastBit (q : ℚ) : q < 2 ^ (lastBit q + 53) := by
  have hlt := Int.lt_zpow_succ_log_self (b := 2) (by norm_num) q
  rw [lastBit, show Int.log 2 q - 52 + 53 = Int.log 2 q + 1 by ring]
  exact_mod_cast hlt

/-- The last bit of what is below a power of two. -/
theorem lastBit_lt (hq : 0 < q) {z : ℤ} (h : q < 2 ^ z) : lastBit q < z - 52 := by
  have hlog := (Int.lt_zpow_iff_log_lt (b := 2) (by norm_num) hq).mp (by exact_mod_cast h)
  rw [lastBit]
  omega

theorem significant_le (q : ℚ) : significant q ≤ q + 2 ^ lastBit q / 2 := by
  have hpos : (0 : ℚ) < 2 ^ lastBit q := zpow_pos two_pos _
  calc significant q ≤ (q / 2 ^ lastBit q + 1 / 2) * 2 ^ lastBit q :=
        mul_le_mul_of_nonneg_right (nearestEven_le _) hpos.le
    _ = q + 2 ^ lastBit q / 2 := by
        rw [add_mul, div_mul_cancel₀ _ hpos.ne']
        ring

/-- What has its last bit no later is not passed over if it is less than half of that bit above. -/
theorem le_significant {k : ℤ} (h : k * 2 ^ lastBit q - 2 ^ lastBit q / 2 < q) :
    k * 2 ^ lastBit q ≤ significant q := by
  have hpos : (0 : ℚ) < 2 ^ lastBit q := zpow_pos two_pos _
  refine mul_le_mul_of_nonneg_right (Int.cast_le.mpr (le_nearestEven ?_)) hpos.le
  rw [lt_div_iff₀ hpos, sub_mul]
  linarith

/-- What has no more than fifty-three bits is not changed. -/
theorem significant_eq_self {k : ℤ} (h : q = k * 2 ^ lastBit q) : significant q = q := by
  have hpos : (0 : ℚ) < 2 ^ lastBit q := zpow_pos two_pos _
  have hdiv : q / 2 ^ lastBit q = k := (div_eq_iff hpos.ne').mpr h
  rw [significant, hdiv, nearestEven_intCast]
  exact h.symm

/-- Whole numbers are multiples of all bits after the point. -/
theorem exists_eq_mul_pow {z : ℤ} (hz : z ≤ 0) (n : ℤ) : ∃ k : ℤ, (n : ℚ) = k * 2 ^ z := by
  obtain ⟨m, rfl⟩ : ∃ m : ℕ, z = -m := ⟨z.natAbs, by omega⟩
  refine ⟨n * 2 ^ m, ?_⟩
  push_cast
  rw [zpow_neg, zpow_natCast, mul_inv_cancel_right₀ (by positivity)]

/-- A whole number is reached by what falls short of it by less than half of the last bit, and the
next one is not reached by what stays farther away. -/
theorem floor_significant {n : ℤ} (hbit : lastBit q ≤ 0) (hlow : n - 2 ^ lastBit q / 2 < q)
    (hhigh : q + 2 ^ lastBit q / 2 < n + 1) : ⌊significant q⌋ = n := by
  obtain ⟨k, hk⟩ := exists_eq_mul_pow hbit n
  rw [hk] at hlow
  have hle := le_significant hlow
  rw [← hk] at hle
  exact Int.floor_eq_iff.mpr ⟨hle, lt_of_le_of_lt (significant_le q) hhigh⟩

/-! ### Results of operations -/

variable {n d : Nat}

theorem cast_unitsPerOne : (unitsPerOne : ℚ) = 2 ^ (unitBits : ℤ) := by
  rw [unitsPerOne_eq, Nat.cast_pow, Nat.cast_ofNat, zpow_natCast]

/-- The exact value of a quotient of units has its last bit where the halvings end. -/
theorem lastBit_natCast_div (hd : 0 < d) (hbits : binade ≤ n / d) :
    lastBit (n / d / unitsPerOne) = halvings (n / d) - unitBits := by
  have hne : n / d ≠ 0 := Nat.ne_of_gt (Nat.lt_of_lt_of_le (by decide) hbits)
  have hd' : (0 : ℚ) < d := by exact_mod_cast hd
  have hlow : (2 : ℚ) ^ (n / d).log2 ≤ n / d := by
    rw [le_div_iff₀ hd']
    exact_mod_cast (Nat.le_div_iff_mul_le hd).mp (Nat.log2_self_le hne)
  have hhigh : (n / d : ℚ) < 2 ^ ((n / d).log2 + 1) := by
    rw [div_lt_iff₀ hd']
    exact_mod_cast (Nat.div_lt_iff_lt_mul hd).mp Nat.lt_log2_self
  have hlog : Int.log 2 ((n / d : ℚ) / unitsPerOne) = (n / d).log2 - unitBits := by
    have hpos : (0 : ℚ) < 2 ^ (unitBits : ℤ) := zpow_pos two_pos _
    rw [cast_unitsPerOne]
    refine log_eq ?_ ?_
    · rw [le_div_iff₀ hpos, ← zpow_add₀ two_ne_zero, Int.sub_add_cancel, zpow_natCast]
      exact hlow
    · rw [div_lt_iff₀ hpos, ← zpow_add₀ two_ne_zero, add_right_comm, Int.sub_add_cancel]
      exact_mod_cast hhigh
  have hbig : 52 ≤ (n / d).log2 := (Nat.le_log2 hne).mpr hbits
  rw [lastBit, hlog, halvings]
  omega

/-- **A quotient of units is rounded to fifty-three bits**, unless it is very small or too large. -/
theorem value_ofQuotient (hd : 0 < d) (hbits : binade ≤ n / d) (h : n / d < 2 ^ safeBits) :
    (ofQuotient false n d).value = significant (n / d / unitsPerOne) := by
  have hpow : (2 : ℚ) ^ ((halvings (n / d) : ℤ) - unitBits) =
      2 ^ halvings (n / d) / unitsPerOne := by
    rw [zpow_sub₀ two_ne_zero, ← cast_unitsPerOne, zpow_natCast]
  have hunits : (unitsPerOne : ℚ) ≠ 0 := Nat.cast_ne_zero.mpr (Nat.ne_of_gt unitsPerOne_pos)
  have hscaled : ((n : ℚ) / d / unitsPerOne) / (2 ^ halvings (n / d) / unitsPerOne) =
      n / (d * 2 ^ halvings (n / d) : ℕ) := by
    rw [div_div_div_cancel_right₀ hunits, div_div]
    push_cast
    rfl
  rw [significant, lastBit_natCast_div hd hbits, hpow, hscaled,
    nearestEven_natCast_div _ (Nat.mul_pos hd (Nat.two_pow_pos _)), value_of_not_negative rfl,
    (units_ofQuotient false h).2, rounded]
  push_cast
  exact mul_div_assoc _ _ _

/-- **Products are rounded to fifty-three bits**, as long as their size allows it. -/
theorem value_mul {x y : Binary64} (hx : x.isFinite) (hy : y.isFinite) (hsx : x.negative = false)
    (hsy : y.negative = false) (hbits : binade ≤ x.units * y.units / unitsPerOne)
    (h : x.units * y.units / unitsPerOne < 2 ^ safeBits) :
    (x * y).isFinite ∧ (x * y).negative = false ∧
      (x * y).value = significant (x.value * y.value) := by
  have hvalue : x.value * y.value = (x.units * y.units : ℕ) / unitsPerOne / unitsPerOne := by
    rw [value_of_not_negative hsx, value_of_not_negative hsy, div_mul_div_comm, div_div,
      Nat.cast_mul]
  rw [mul_of_isFinite hx hy, hsx, hsy, hvalue]
  exact ⟨(units_ofQuotient _ h).1, rfl, value_ofQuotient unitsPerOne_pos hbits h⟩

/-- **Whole numbers keep their value**, if they have no more than fifty-three bits. -/
theorem value_ofNat {n : Nat} (hpos : 0 < n) (h : n < 2 ^ 53) :
    (ofNat n).isFinite ∧ (ofNat n).negative = false ∧ (ofNat n).value = n := by
  have hsafe : n * unitsPerOne / 1 < 2 ^ safeBits :=
    Nat.lt_trans (mul_unitsPerOne_lt h) (Nat.pow_lt_pow_right (by decide) (by decide))
  have hbits : binade ≤ n * unitsPerOne / 1 := by
    rw [Nat.div_one]
    exact Nat.le_trans (by decide +kernel) (Nat.le_mul_of_pos_left unitsPerOne hpos)
  have hq : (0 : ℚ) < n := by exact_mod_cast hpos
  have hexact : (n * unitsPerOne : ℕ) / (1 : ℕ) / (unitsPerOne : ℚ) = n := by
    have hunits : (unitsPerOne : ℚ) ≠ 0 := Nat.cast_ne_zero.mpr (Nat.ne_of_gt unitsPerOne_pos)
    rw [Nat.cast_one, div_one, Nat.cast_mul, mul_div_cancel_right₀ _ hunits]
  refine ⟨(units_ofQuotient false hsafe).1, rfl, ?_⟩
  rw [ofNat, value_ofQuotient Nat.one_pos hbits hsafe, hexact]
  have hlast : lastBit (n : ℚ) ≤ 0 := by
    have hlt := lastBit_lt hq (z := 53) (by exact_mod_cast h)
    omega
  obtain ⟨k, hk⟩ := exists_eq_mul_pow hlast n
  rw [Int.cast_natCast] at hk
  exact significant_eq_self hk

end QueueDrain.Binary64
