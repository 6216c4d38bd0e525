import QueueDrain.Binary64.Decimal
import QueueDrain.Proofs.Binary64.Rounding
import QueueDrain.Proofs.Text.Integer

/-!
How large the shortest decimal of a double can be.

The decimals on a grid next to a double are at most one place above it (`onGrid?_cases`), so the
first digit of the shortest one stands no higher than the value does (`top_le_of_shortest?`); and
leaving out the zeros at its end changes nothing about that (`trimmed_spec`).
-/

namespace QueueDrain

namespace Decimal

/-- The exponent above the first digit. -/
def top (d : Decimal) : Int := d.exponent + (digits d.coefficient).length

theorem length_digits_le_iff {n k : Nat} (h : 0 < k) : (digits n).length ≤ k ↔ n < 10 ^ k :=
  Nat.length_toDigits_le_iff (by decide) h

theorem lt_pow_length_digits (n : Nat) : n < 10 ^ (digits n).length :=
  (length_digits_le_iff Nat.length_toDigits_pos).mp (Nat.le_refl _)

/-- The number of zeros at the end of the coefficient. -/
def zeros (d : Decimal) : Nat := ((digits d.coefficient).reverse.takeWhile (· == '0')).length

theorem zeros_lt_length {d : Decimal} (h : 0 < d.coefficient) :
    d.zeros < (digits d.coefficient).length := by
  refine Nat.lt_of_le_of_ne ?_ fun heq => Text.head?_toDigits h ?_
  · have hle := (List.takeWhile_sublist (· == '0')
      (l := (digits d.coefficient).reverse)).length_le
    rwa [List.length_reverse] at hle
  · -- if all of the digits were zeros, the first one would be
    have hall : (digits d.coefficient).reverse.takeWhile (· == '0') =
        (digits d.coefficient).reverse := by
      refine (List.takeWhile_prefix (· == '0')).eq_of_length ?_
      rw [List.length_reverse]
      exact heq
    obtain ⟨c, s, hcons, -⟩ := Text.toDigits_eq_cons d.coefficient
    have hmem : c ∈ (digits d.coefficient).reverse.takeWhile (· == '0') := by
      rw [hall, List.mem_reverse, digits, hcons]
      exact List.mem_cons_self
    have hc : c = '0' := beq_iff_eq.mp (List.all_eq_true.mp List.all_takeWhile c hmem)
    rw [hcons, hc]
    rfl

theorem trimmed_of_pos {d : Decimal} (h : 0 < d.coefficient) :
    d.trimmed = ⟨d.coefficient / 10 ^ d.zeros, d.exponent + d.zeros⟩ := by
  rw [trimmed, if_neg (Nat.ne_of_gt h)]
  rfl

/-- Without the zeros at its end a decimal is positive still, and does not reach higher. -/
theorem trimmed_spec {d : Decimal} (h : 0 < d.coefficient) :
    0 < d.trimmed.coefficient ∧ d.trimmed.top ≤ d.top := by
  have hzeros := zeros_lt_length h
  -- there are fewer zeros than digits, so they can be taken away
  have hpow : 10 ^ d.zeros ≤ d.coefficient := by
    rcases Nat.eq_zero_or_pos d.zeros with hzero | hpos
    · rw [hzero]
      exact h
    · exact Nat.not_lt.mp fun hlt =>
        absurd ((length_digits_le_iff hpos).mpr hlt) (Nat.not_le.mpr hzeros)
  have hlength : (digits (d.coefficient / 10 ^ d.zeros)).length ≤
      (digits d.coefficient).length - d.zeros := by
    refine (length_digits_le_iff (by omega)).mpr ?_
    refine (Nat.div_lt_iff_lt_mul (Nat.pow_pos (by decide))).mpr ?_
    rw [← Nat.pow_add, Nat.sub_add_cancel (Nat.le_of_lt hzeros)]
    exact lt_pow_length_digits _
  rw [trimmed_of_pos h]
  refine ⟨Nat.div_pos hpow (Nat.pow_pos (by decide)), ?_⟩
  simp only [top]
  omega

end Decimal

namespace Binary64

/-- The coefficient of the decimal on a grid just below a number of units. -/
def below (u : Nat) (g : Int) : Nat :=
  u * Nat.pow 10 (-g).toNat / (unitsPerOne * Nat.pow 10 g.toNat)

theorem unitsOf_pos {m : Nat} (h : 0 < m) : 0 < unitsOf m := by
  rw [unitsOf]
  split
  · exact h
  · exact Nat.mul_pos (Nat.add_pos_left (by decide) _) (Nat.pow_pos (by decide))

/-- Zero is not read as a double above it. -/
theorem pos_of_readsBack {m low high one c : Nat} (hlow : 0 < low)
    (h : (if m % 2 = 0 then decide (low ≤ 2 * c * one) && decide (2 * c * one ≤ high)
      else decide (low < 2 * c * one) && decide (2 * c * one < high)) = true) : 0 < c := by
  refine Nat.pos_of_ne_zero fun hzero => ?_
  rw [hzero, Nat.mul_zero, Nat.zero_mul] at h
  split at h
  · simp [Nat.not_le.mpr hlow] at h
  · simp at h

/-- A decimal on a grid next to a double is the one below it or the one after that, and not zero. -/
theorem onGrid?_cases {m : Nat} {g : Int} {d : Decimal} (hm : 0 < m) (h : onGrid? m g = some d) :
    d.exponent = g ∧ 0 < d.coefficient ∧ d.coefficient ≤ below (unitsOf m) g + 1 := by
  have hlow : 0 < (unitsOf m + unitsOf (m - 1)) * Nat.pow 10 (-g).toNat :=
    Nat.mul_pos (Nat.add_pos_left (unitsOf_pos hm) _) (Nat.pow_pos (by decide))
  rw [onGrid?, ← below] at h
  generalize below (unitsOf m) g = b at h ⊢
  generalize unitsPerOne * Nat.pow 10 g.toNat = one at h
  -- both neighbours read back, only one of them, or none
  split at h
  next hread _ =>
    have hpos := pos_of_readsBack hlow hread
    obtain rfl := Option.some.inj h
    refine ⟨rfl, ?_, ?_⟩
    · dsimp only
      split
      · exact hpos
      · exact Nat.succ_pos _
    · dsimp only
      split
      · exact Nat.le_succ _
      · exact Nat.le_refl _
  next hread _ =>
    obtain rfl := Option.some.inj h
    exact ⟨rfl, pos_of_readsBack hlow hread, Nat.le_succ _⟩
  next =>
    obtain rfl := Option.some.inj h
    exact ⟨rfl, Nat.succ_pos _, Nat.le_refl _⟩
  next => cases h

/-- What is below a power of ten is below it on every grid. -/
theorem below_lt {u : Nat} {g : Int} {places : Nat} (hu : u < unitsPerOne * 10 ^ places)
    (hg : g ≤ places) : below u g < 10 ^ (places - g).toNat := by
  have hone : 0 < unitsPerOne * 10 ^ g.toNat :=
    Nat.mul_pos unitsPerOne_pos (Nat.pow_pos (by decide))
  simp only [below, Nat.pow_eq]
  refine (Nat.div_lt_iff_lt_mul hone).mpr ?_
  have hexponent : places + (-g).toNat = (places - g).toNat + g.toNat := by omega
  calc u * 10 ^ (-g).toNat
      < unitsPerOne * 10 ^ places * 10 ^ (-g).toNat :=
        Nat.mul_lt_mul_of_pos_right hu (Nat.pow_pos (by decide))
    _ = unitsPerOne * 10 ^ (places + (-g).toNat) := by rw [Nat.mul_assoc, Nat.pow_add]
    _ = 10 ^ (places - g).toNat * (unitsPerOne * 10 ^ g.toNat) := by
        rw [hexponent, Nat.pow_add, Nat.mul_left_comm]

theorem leadingExponent_le {u places : Nat} (hu : u < unitsPerOne * 10 ^ places) :
    leadingExponent u ≤ places := by
  rw [leadingExponent]
  split
  next hle =>
    have hlt : u / unitsPerOne < 10 ^ places := by
      rw [Nat.mul_comm] at hu
      exact (Nat.div_lt_iff_lt_mul unitsPerOne_pos).mpr hu
    rcases Nat.eq_zero_or_pos places with rfl | hpos
    -- below one there is no place before the point
    · have hone : u / unitsPerOne < 1 := hlt
      exact absurd (Nat.div_pos hle unitsPerOne_pos) (Nat.not_lt_of_le (Nat.le_of_lt_succ hone))
    · have hlength := (Decimal.length_digits_le_iff hpos).mpr hlt
      omega
  next =>
    clear hu
    omega

/-- The shortest decimal of a double below a power of ten does not reach above that power by more
than one place. -/
theorem top_le_of_shortest? {m places : Nat} {d : Decimal} (hm : 0 < m)
    (hu : unitsOf m < unitsPerOne * 10 ^ places) (h : shortest? m = some d) :
    0 < d.coefficient ∧ d.top ≤ places + 1 := by
  rw [shortest?] at h
  obtain ⟨fewer, -, hgrid⟩ := List.exists_of_findSome?_eq_some h
  obtain ⟨hexponent, hpos, hle⟩ := onGrid?_cases hm hgrid
  have hleading := leadingExponent_le hu
  have hg : d.exponent ≤ places := by omega
  have hbelow := below_lt hu hg
  rw [← hexponent] at hle
  have hlength : (Decimal.digits d.coefficient).length ≤ (places - d.exponent).toNat + 1 := by
    refine (Decimal.length_digits_le_iff (Nat.succ_pos _)).mpr ?_
    have hpow : 0 < 10 ^ (places - d.exponent).toNat := Nat.pow_pos (by decide)
    rw [Nat.pow_succ]
    omega
  refine ⟨hpos, ?_⟩
  rw [Decimal.top]
  omega

end Binary64

end QueueDrain
