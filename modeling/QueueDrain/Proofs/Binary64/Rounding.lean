import Mathlib.Algebra.Group.Nat.Defs
import QueueDrain.Binary64.Basic

/-!
How far a rounded quotient is from the exact one.

A quotient that is not too large is rounded to a finite double, whose value in units is the quotient
rounded to fifty-three bits (`units_ofQuotient`).  That is never more than twice the quotient
(`units_ofQuotient_le`), and never less than a power of two below it (`pow_le_units_ofQuotient`),
which holds of the infinities as well, if these are taken for the next power of two.
-/

namespace QueueDrain.Binary64

theorem unitsPerOne_pos : 0 < unitsPerOne := by decide +kernel

/-- How often a quotient is halved before it is rounded. -/
def halvings (q : Nat) : Nat := q.log2 - 52

/-- The quotient rounded to fifty-three bits, without the halvings. -/
def rounded (n d : Nat) : Nat := roundQuotient n (d * 2 ^ halvings (n / d))

theorem nearestMagnitude_eq (n d : Nat) :
    nearestMagnitude n d = halvings (n / d) * binade + rounded n d := rfl

theorem le_roundQuotient (n d : Nat) : n / d ≤ roundQuotient n d := by
  simp only [roundQuotient]
  split
  · exact Nat.le_refl _
  · split
    · exact Nat.le_add_right _ _
    · exact Nat.le_add_right _ _

theorem roundQuotient_le (n d : Nat) : roundQuotient n d ≤ n / d + 1 := by
  have hbit : n / d % 2 ≤ 1 := Nat.le_of_lt_succ (Nat.mod_lt _ (by decide))
  simp only [roundQuotient]
  split
  · exact Nat.le_add_right _ _
  · split
    · exact Nat.add_le_add_left hbit _
    · exact Nat.le_refl _

theorem le_rounded (n d : Nat) : n / d / 2 ^ halvings (n / d) ≤ rounded n d := by
  rw [Nat.div_div_eq_div_mul]
  exact le_roundQuotient _ _

theorem rounded_le (n d : Nat) : rounded n d ≤ n / d / 2 ^ halvings (n / d) + 1 := by
  rw [Nat.div_div_eq_div_mul]
  exact roundQuotient_le _ _

/-! ### The bits of a rounded quotient -/

/-- After the halvings no more than fifty-three bits are left. -/
theorem div_pow_halvings_lt (q : Nat) : q / 2 ^ halvings q < 2 * binade := by
  have hlog : q < 2 ^ (q.log2 + 1) := Nat.lt_log2_self
  have hexponent : q.log2 + 1 ≤ 53 + halvings q := by
    rw [halvings]
    omega
  have hpow : 2 ^ (q.log2 + 1) ≤ 2 * binade * 2 ^ halvings q := by
    rw [show 2 * binade = 2 ^ 53 by decide, ← Nat.pow_add]
    exact Nat.pow_le_pow_right (by decide) hexponent
  exact (Nat.div_lt_iff_lt_mul (Nat.two_pow_pos _)).mpr (Nat.lt_of_lt_of_le hlog hpow)

/-- Only what has fifty-three bits is halved, so that many are left. -/
theorem binade_le_div_pow_halvings {q : Nat} (h : halvings q ≠ 0) :
    binade ≤ q / 2 ^ halvings q := by
  have hq : q ≠ 0 := by
    rintro rfl
    exact h rfl
  have hexponent : 52 + halvings q = q.log2 := by
    rw [halvings] at h ⊢
    omega
  refine (Nat.le_div_iff_mul_le (Nat.two_pow_pos _)).mpr ?_
  rw [show binade = 2 ^ 52 by decide, ← Nat.pow_add, hexponent]
  exact Nat.log2_self_le hq

/-- What a carry into the next exponent stands for is what it was carried from. -/
theorem unitsOf_add {h r : Nat} (hr : r ≤ 2 * binade) (hh : h ≠ 0 → binade ≤ r) :
    unitsOf (h * binade + r) = r * 2 ^ h := by
  have hbinade : 0 < binade := by decide
  by_cases hsmall : r < binade
  -- so small only without halvings, and then the magnitude is the number of units
  · obtain rfl : h = 0 := Classical.byContradiction fun hne => absurd (hh hne) (by omega)
    rw [Nat.zero_mul, Nat.zero_add, unitsOf, if_pos hsmall, Nat.pow_zero, Nat.mul_one]
  · have hge : ¬ h * binade + r < binade := by omega
    rw [unitsOf, if_neg hge]
    rcases Nat.lt_or_ge r (2 * binade) with hlt | hle
    -- the first bit of `r` adds one to the exponent, the others are the significand
    · have hsplit : h * binade + r = (r - binade) + binade * (h + 1) := by
        rw [Nat.mul_comm binade, Nat.succ_mul]
        omega
      have hrest : r - binade < binade := by omega
      rw [hsplit, Nat.add_mul_mod_self_left, Nat.mod_eq_of_lt hrest,
        Nat.add_mul_div_left _ _ hbinade, Nat.div_eq_of_lt hrest]
      show (binade + (r - binade)) * 2 ^ (0 + (h + 1) - 1) = r * 2 ^ h
      rw [show binade + (r - binade) = r by omega, show 0 + (h + 1) - 1 = h by omega]
    -- rounded up to the next power of two: the significand is empty, the exponent one more
    · obtain rfl : r = 2 * binade := Nat.le_antisymm hr hle
      have hsplit : h * binade + 2 * binade = (h + 2) * binade := (Nat.add_mul h 2 binade).symm
      rw [hsplit, Nat.mul_mod_left, Nat.mul_div_cancel _ hbinade]
      show (binade + 0) * 2 ^ (h + 2 - 1) = 2 * binade * 2 ^ h
      rw [show h + 2 - 1 = h + 1 by omega, Nat.pow_succ]
      ac_rfl

variable {n d : Nat}

theorem rounded_le_two_binades (n d : Nat) : rounded n d ≤ 2 * binade :=
  Nat.le_trans (rounded_le n d) (div_pow_halvings_lt (n / d))

theorem unitsOf_nearestMagnitude (n d : Nat) :
    unitsOf (nearestMagnitude n d) = rounded n d * 2 ^ halvings (n / d) := by
  rw [nearestMagnitude_eq]
  exact unitsOf_add (rounded_le_two_binades n d) fun h =>
    Nat.le_trans (binade_le_div_pow_halvings h) (le_rounded n d)

/-- The bits of the largest quotients that surely do not overflow. -/
def safeBits : Nat := 2097

theorem nearestMagnitude_lt (h : n / d < 2 ^ safeBits) :
    nearestMagnitude n d < infinityMagnitude := by
  have hlog : halvings (n / d) ≤ 2044 := by
    by_cases hq : n / d = 0
    · rw [hq]
      decide
    · have hlt := (Nat.log2_lt hq).mpr h
      rw [safeBits] at hlt
      rw [halvings]
      omega
  -- the exponents of the halvings and of a carry stay below that of the infinities
  have hmul := Nat.mul_le_mul_right binade hlog
  have hrounded := rounded_le_two_binades n d
  rw [nearestMagnitude_eq, infinityMagnitude, binade] at *
  omega

/-- **A quotient is rounded to fifty-three bits**, unless it may be too large. -/
theorem units_ofQuotient (negative : Bool) (h : n / d < 2 ^ safeBits) :
    (ofQuotient negative n d).isFinite ∧
      (ofQuotient negative n d).units = rounded n d * 2 ^ halvings (n / d) := by
  have hlt := nearestMagnitude_lt h
  have hmagnitude : (ofQuotient negative n d).magnitude = nearestMagnitude n d :=
    Nat.min_eq_left (Nat.le_of_lt hlt)
  refine ⟨?_, ?_⟩
  · rw [isFinite, hmagnitude]
    exact decide_eq_true hlt
  · rw [units, hmagnitude, unitsOf_nearestMagnitude]

/-- Rounding at most doubles a quotient. -/
theorem units_ofQuotient_le (negative : Bool) (h : n / d < 2 ^ safeBits) :
    (ofQuotient negative n d).units ≤ 2 * (n / d) + 1 := by
  rw [(units_ofQuotient negative h).2]
  -- what rounding up adds is one unit in the last place, which is no more than the quotient
  have hpow : 2 ^ halvings (n / d) ≤ n / d + 1 := by
    by_cases hzero : halvings (n / d) = 0
    · rw [hzero]
      exact Nat.le_add_left _ _
    · have hbits := binade_le_div_pow_halvings hzero
      have hmul := Nat.mul_le_of_le_div _ _ _ hbits
      have hone : 1 ≤ binade := by decide
      have hle := Nat.mul_le_mul_right (2 ^ halvings (n / d)) hone
      omega
  calc rounded n d * 2 ^ halvings (n / d)
      ≤ (n / d / 2 ^ halvings (n / d) + 1) * 2 ^ halvings (n / d) :=
        Nat.mul_le_mul_right _ (rounded_le n d)
    _ = n / d / 2 ^ halvings (n / d) * 2 ^ halvings (n / d) + 2 ^ halvings (n / d) :=
        Nat.succ_mul _ _
    _ ≤ n / d + (n / d + 1) := Nat.add_le_add (Nat.div_mul_le_self _ _) hpow
    _ = 2 * (n / d) + 1 := by omega

/-- Rounding does not go below a power of two. -/
theorem pow_le_unitsOf_nearestMagnitude {bits : Nat} (hbits : 2 ^ bits ≤ n / d) :
    2 ^ bits ≤ unitsOf (nearestMagnitude n d) := by
  rw [unitsOf_nearestMagnitude]
  have hne : n / d ≠ 0 := Nat.ne_of_gt (Nat.lt_of_lt_of_le (Nat.two_pow_pos _) hbits)
  have hlog : bits ≤ (n / d).log2 := (Nat.le_log2 hne).mpr hbits
  have hhalvings : halvings (n / d) ≤ (n / d).log2 := Nat.sub_le _ _
  have hquotient : 2 ^ ((n / d).log2 - halvings (n / d)) ≤ n / d / 2 ^ halvings (n / d) := by
    refine (Nat.le_div_iff_mul_le (Nat.two_pow_pos _)).mpr ?_
    rw [← Nat.pow_add, Nat.sub_add_cancel hhalvings]
    exact Nat.log2_self_le hne
  calc 2 ^ bits ≤ 2 ^ (n / d).log2 := Nat.pow_le_pow_right (by decide) hlog
    _ = 2 ^ ((n / d).log2 - halvings (n / d)) * 2 ^ halvings (n / d) := by
        rw [← Nat.pow_add, Nat.sub_add_cancel hhalvings]
    _ ≤ rounded n d * 2 ^ halvings (n / d) :=
        Nat.mul_le_mul_right _ (Nat.le_trans hquotient (le_rounded n d))

/-- The bits of the units in one. -/
def unitBits : Nat := 1074

theorem unitsPerOne_eq : unitsPerOne = 2 ^ unitBits := by decide +kernel

/-- The infinities stand where the power of two after all finite doubles would be. -/
def infinityBits : Nat := 1024

theorem unitsOf_infinityMagnitude : unitsOf infinityMagnitude = 2 ^ (infinityBits + unitBits) := by
  decide +kernel

/-- So a double does not go below a power of two either, not even if it is infinite. -/
theorem pow_le_units_ofQuotient (negative : Bool) {bits : Nat} (hbits : 2 ^ bits ≤ n / d)
    (hmax : bits ≤ infinityBits + unitBits) : 2 ^ bits ≤ (ofQuotient negative n d).units := by
  have hmagnitude : (ofQuotient negative n d).magnitude =
      min (nearestMagnitude n d) infinityMagnitude := rfl
  rw [units, hmagnitude]
  rcases Nat.le_total (nearestMagnitude n d) infinityMagnitude with hle | hge
  · rw [Nat.min_eq_left hle]
    exact pow_le_unitsOf_nearestMagnitude hbits
  · rw [Nat.min_eq_right hge, unitsOf_infinityMagnitude]
    exact Nat.pow_le_pow_right (by decide) hmax

/-! ### Bounds on the results of operations -/

/-- A finite double whose units have no more than so many bits. -/
def IsBelow (x : Binary64) (bits : Nat) : Prop := x.isFinite ∧ x.units < 2 ^ bits

variable {x y : Binary64} {a b c : Nat}

theorem not_isNaN_of_isFinite (h : x.isFinite) : x.isNaN = false := by
  have hlt : x.magnitude < infinityMagnitude := of_decide_eq_true h
  exact decide_eq_false (Nat.not_lt.mpr (Nat.le_of_lt hlt))

theorem not_isInfinite_of_isFinite (h : x.isFinite) : x.isInfinite = false := by
  have hlt : x.magnitude < infinityMagnitude := of_decide_eq_true h
  exact beq_eq_false_iff_ne.mpr (Nat.ne_of_lt hlt)

theorem ofQuotient_isBelow (negative : Bool) (h : n / d < 2 ^ c) (hc : c ≤ safeBits) :
    (ofQuotient negative n d).IsBelow (c + 1) := by
  have hsafe : n / d < 2 ^ safeBits :=
    Nat.lt_of_lt_of_le h (Nat.pow_le_pow_right (by decide) hc)
  refine ⟨(units_ofQuotient negative hsafe).1, ?_⟩
  have hle := units_ofQuotient_le negative hsafe
  rw [Nat.pow_succ]
  omega

theorem mul_unitsPerOne_lt {k : Nat} (h : k < 2 ^ a) :
    k * unitsPerOne / 1 < 2 ^ (a + unitBits) := by
  rw [Nat.div_one, unitsPerOne_eq, Nat.pow_add]
  exact Nat.mul_lt_mul_of_pos_right h (Nat.two_pow_pos _)

theorem ofNat_isBelow {k : Nat} (h : k < 2 ^ a) (hc : a + unitBits ≤ safeBits) :
    (ofNat k).IsBelow (a + unitBits + 1) :=
  ofQuotient_isBelow false (mul_unitsPerOne_lt h) hc

/-- Whole numbers other than zero are rounded to no less than one. -/
theorem le_units_ofNat {k : Nat} (hpos : 0 < k) : unitsPerOne ≤ (ofNat k).units := by
  rw [unitsPerOne_eq, ofNat]
  refine pow_le_units_ofQuotient false ?_ (by decide)
  rw [Nat.div_one, unitsPerOne_eq]
  exact Nat.le_mul_of_pos_left _ hpos

theorem mul_of_isFinite (hx : x.isFinite) (hy : y.isFinite) :
    x * y = ofQuotient (x.negative != y.negative) (x.units * y.units) unitsPerOne := by
  show x.mul y = _
  rw [mul]
  simp only [not_isNaN_of_isFinite hx, not_isNaN_of_isFinite hy, not_isInfinite_of_isFinite hx,
    not_isInfinite_of_isFinite hy, Bool.or_self]
  rfl

theorem mul_isBelow (hx : x.IsBelow a) (hy : y.IsBelow b) (hab : a + b = c + unitBits)
    (hc : c ≤ safeBits) : (x * y).IsBelow (c + 1) := by
  rw [mul_of_isFinite hx.1 hy.1]
  refine ofQuotient_isBelow _ ((Nat.div_lt_iff_lt_mul unitsPerOne_pos).mpr ?_) hc
  rw [unitsPerOne_eq, ← Nat.pow_add, ← hab, Nat.pow_add]
  exact Nat.mul_lt_mul'' hx.2 hy.2

/-- Dividing by a double that is no less than a power of two takes that many bits. -/
theorem div_isBelow {k : Nat} (hx : x.IsBelow (c + k)) (hy : y.isFinite)
    (hle : 2 ^ k * unitsPerOne ≤ y.units) (hc : c ≤ safeBits) : (x / y).IsBelow (c + 1) := by
  have hpos : 0 < y.units :=
    Nat.lt_of_lt_of_le (Nat.mul_pos (Nat.two_pow_pos _) unitsPerOne_pos) hle
  have hzero : y.isZero = false := by
    refine beq_eq_false_iff_ne.mpr fun h => ?_
    rw [units, h] at hpos
    exact absurd hpos (by decide)
  have hdiv : x / y = ofQuotient (x.negative != y.negative) (x.units * unitsPerOne) y.units := by
    show x.div y = _
    rw [div]
    simp only [not_isNaN_of_isFinite hx.1, not_isNaN_of_isFinite hy,
      not_isInfinite_of_isFinite hx.1, not_isInfinite_of_isFinite hy, hzero]
    rfl
  rw [hdiv]
  refine ofQuotient_isBelow _ ((Nat.div_lt_iff_lt_mul hpos).mpr ?_) hc
  calc x.units * unitsPerOne
      < 2 ^ (c + k) * unitsPerOne := Nat.mul_lt_mul_of_pos_right hx.2 unitsPerOne_pos
    _ = 2 ^ c * (2 ^ k * unitsPerOne) := by rw [Nat.pow_add, Nat.mul_assoc]
    _ ≤ 2 ^ c * y.units := Nat.mul_le_mul_left _ hle

end QueueDrain.Binary64
