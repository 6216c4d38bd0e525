import QueueDrain.Proofs.Binary64.Rounding
import QueueDrain.Proofs.Binary64.Shortest
import QueueDrain.Proofs.Json.Documents

/-!
Doubles in documents.

The text of a finite double is a number that is put together from parts
(`Binary64.exists_numeral`), and unless the double is very large these stand for a finite double
again (`legible_float`).  Nothing is said here about which one: the reader does not round exactly.
-/

namespace QueueDrain.Json

open Binary64 (IsBelow safeBits unitBits)

namespace Literal

/-! ### Scaling -/

theorem absorb_le {significand : Nat} (ds : List Nat) (h : significand ≤ significandLimit) :
    (absorb significand ds).1 ≤ significandLimit ∧
      (absorb significand ds).2.length ≤ ds.length := by
  induction ds generalizing significand with
  | nil => exact ⟨h, Nat.le_refl _⟩
  | cons d ds ih =>
    rw [absorb]
    split
    next => exact ⟨h, Nat.le_refl _⟩
    next hlimit =>
      obtain ⟨hsignificand, hlength⟩ := ih (Nat.not_lt.mp hlimit)
      exact ⟨hsignificand, Nat.le_succ_of_le hlength⟩

theorem power_lt_safeBits {e : Nat} (h : e < greatestPower) : Nat.pow 10 e < 2 ^ 1020 :=
  Nat.lt_of_le_of_lt (Nat.pow_le_pow_right (by decide) (Nat.le_pred_of_lt h)) (by decide +kernel)

/-- The powers of ten that are used are finite, and no less than one. -/
theorem power_spec {e : Nat} (h : e ≤ greatestPower) :
    (power e).isFinite ∧ Binary64.unitsPerOne ≤ (power e).units := by
  rcases Nat.lt_or_eq_of_le h with hlt | rfl
  · have hpow := power_lt_safeBits hlt
    have hsafe : 1020 + unitBits ≤ safeBits := by decide
    exact ⟨(Binary64.ofNat_isBelow hpow hsafe).1,
      Binary64.le_units_ofNat (Nat.pow_pos (by decide))⟩
  · decide +kernel

/-- The bits of the units of the doubles that are scaled. -/
def significandBits : Nat := 64 + unitBits + 1

theorem ofNat_isBelow_significandBits {n : Nat} (h : n ≤ significandLimit) :
    (Binary64.ofNat n).IsBelow significandBits :=
  Binary64.ofNat_isBelow (Nat.lt_of_le_of_lt h (by decide)) (by decide)

/-- The exponents up to which scaling never overflows. -/
def safeExponent : Nat := 280

theorem scale?_finite {x : Binary64} {e : Int} (hx : x.IsBelow significandBits)
    (he : e ≤ safeExponent) :
    ∃ y, scale? x e = some y ∧ y.isFinite := by
  rw [scale?]
  -- within the table a single product or quotient is enough
  by_cases hsmall : e.natAbs ≤ greatestPower
  · rw [if_pos hsmall]
    by_cases hneg : 0 ≤ e
    · have hpow : Nat.pow 10 e.natAbs < 2 ^ 931 :=
        Nat.lt_of_le_of_lt (Nat.pow_le_pow_right (by decide) (by omega))
          (by decide +kernel : 10 ^ safeExponent < 2 ^ 931)
      have hpower : (power e.natAbs).IsBelow (931 + unitBits + 1) :=
        Binary64.ofNat_isBelow hpow (by decide)
      have hproduct : (x * power e.natAbs).IsBelow (997 + unitBits + 1) :=
        Binary64.mul_isBelow hx hpower (by decide) (by decide)
      rw [if_pos hneg, if_pos hproduct.1]
      exact ⟨_, rfl, hproduct.1⟩
    · obtain ⟨hfinite, hle⟩ := power_spec hsmall
      have hquotient : (x / power e.natAbs).IsBelow (significandBits + 1) :=
        Binary64.div_isBelow (k := 0) hx hfinite (by rwa [Nat.pow_zero, Nat.one_mul]) (by decide)
      rw [if_neg hneg]
      exact ⟨_, rfl, hquotient.1⟩
  -- beyond it the exponent is negative: divide by the greatest power, and go on with the rest
  · rw [if_neg hsmall]
    by_cases hzero : x.isZero
    · rw [if_pos hzero]
      exact ⟨x, rfl, hx.1⟩
    · have hlow : e < -(greatestPower : Int) := by
        unfold safeExponent at he
        unfold greatestPower at hsmall ⊢
        omega
      have hquotient : (x / power greatestPower).IsBelow significandBits :=
        Binary64.div_isBelow (k := 1) (c := 64 + unitBits) hx (power_spec (Nat.le_refl _)).1
          (by decide +kernel) (by decide)
      rw [if_neg hzero, if_neg (by omega)]
      exact scale?_finite hquotient (by omega)
termination_by e.natAbs
decreasing_by unfold greatestPower at *; omega

/-- The literal of a number that is not too large stands for a finite double. -/
theorem double?_finite {l : Literal}
    (h : (l.whole.length : Int) + l.exponent.getD 0 ≤ safeExponent) :
    ∃ y, l.double? = some y ∧ y.isFinite := by
  obtain ⟨hwhole, hdropped⟩ := absorb_le l.whole (Nat.zero_le significandLimit)
  obtain ⟨hfraction, -⟩ := absorb_le (l.fraction.getD []) hwhole
  rw [double?]
  dsimp only
  -- digits after the point only lower the exponent, dropped ones before it are among the digits
  obtain ⟨y, hscale, hy⟩ := scale?_finite (ofNat_isBelow_significandBits hfraction)
    (e := ((absorb 0 l.whole).2.length : Int) -
      ((l.fraction.getD []).length -
        (absorb (absorb 0 l.whole).1 (l.fraction.getD [])).2.length : Nat) + l.exponent.getD 0)
    (by omega)
  rw [hscale]
  refine ⟨_, rfl, ?_⟩
  split
  · exact hy
  · exact hy

end Literal

namespace Token.Numeral

/-! ### Texts -/

/-- Digits with none but significant ones at the start. -/
structure Significant (ds : List Char) : Prop where
  ne : ds ≠ []
  digits : ∀ c ∈ ds, c.isDigit
  head : ds.head? ≠ some '0'

theorem significant_digits {n : Nat} (h : 0 < n) : Significant (Decimal.digits n) where
  ne := Nat.toDigits_ne_nil
  digits _ hc := Nat.isDigit_of_mem_toDigits (by decide) (by decide) hc
  head := Text.head?_toDigits h

/-- The parts of digits in positions, for a first digit with exponent `e`. -/
def positional (ds : List Char) (e : Int) : Numeral :=
  if e < 0 then ⟨false, ['0'], some (List.replicate (-e - 1).toNat '0' ++ ds), none⟩
  else if ds.length ≤ e.toNat + 1 then
    ⟨false, ds ++ List.replicate (e.toNat + 1 - ds.length) '0', some ['0'], none⟩
  else ⟨false, ds.take (e.toNat + 1), some (ds.drop (e.toNat + 1)), none⟩

/-- The parts of a mantissa with the exponent `e`. -/
def exponential (ds : List Char) (e : Int) : Numeral where
  negative := false
  whole := ds.take 1
  fraction := if ds.length ≤ 1 then none else some (ds.drop 1)
  exponent := some (decide (e < 0), Decimal.digits e.natAbs)

variable {ds : List Char} {e : Int}

theorem isDigit_zero : '0'.isDigit := by decide

theorem isDigit_append_replicate {s : List Char} (h : ∀ c ∈ s, c.isDigit) (k : Nat) :
    ∀ c ∈ s ++ List.replicate k '0', c.isDigit := by
  intro c hc
  rcases List.mem_append.mp hc with hc | hc
  · exact h c hc
  · rw [(List.mem_replicate.mp hc).2]
    exact isDigit_zero

theorem positional_spec (h : Significant ds) (he : e ≤ 15) :
    (positional ds e).Proper ∧ (positional ds e).text = DecimalLayout.positional ds e ∧
      (positional ds e).fraction.isSome ∧ (positional ds e).exponent = none ∧
      (positional ds e).whole.length ≤ 16 := by
  rw [positional, DecimalLayout.positional]
  split
  -- below one: zeros after the point, then the digits
  next hneg =>
    refine ⟨⟨List.cons_ne_nil _ _, by simp, fun _ => rfl, ?_, by simp⟩,
      by simp [text, sign, fractionText, exponentText], rfl, rfl, by simp⟩
    rintro _ ⟨⟩
    refine ⟨by simp [h.ne], fun c hc => ?_⟩
    rcases List.mem_append.mp hc with hc | hc
    · rw [(List.mem_replicate.mp hc).2]
      exact isDigit_zero
    · exact h.digits c hc
  next hneg =>
    split
    -- a whole number: zeros fill up the places before the point
    next hlength =>
      refine ⟨⟨by simp [h.ne], isDigit_append_replicate h.digits _, fun hhead => ?_, ?_,
        by simp⟩, by simp [text, sign, fractionText, exponentText, hlength], rfl, rfl,
        ?_⟩
      · obtain ⟨d, ds, rfl⟩ := List.exists_cons_of_ne_nil h.ne
        exact absurd hhead h.head
      · rintro _ ⟨⟩
        simp
      · rw [List.length_append, List.length_replicate]
        omega
    -- the point stands among the digits
    next hlength =>
      refine ⟨⟨?_, fun c hc => h.digits c (List.mem_of_mem_take hc), fun hhead => ?_, ?_,
        by simp⟩, ?_, rfl, rfl, ?_⟩
      · simp [h.ne]
      · obtain ⟨d, ds, rfl⟩ := List.exists_cons_of_ne_nil h.ne
        exact absurd hhead h.head
      · rintro _ ⟨⟩
        refine ⟨?_, fun c hc => h.digits c (List.mem_of_mem_drop hc)⟩
        simp only [ne_eq, List.drop_eq_nil_iff]
        omega
      · dsimp only
        rw [if_neg hlength]
        simp [text, sign, fractionText, exponentText]
      · rw [List.length_take]
        omega

theorem exponential_spec (h : Significant ds) :
    (exponential ds e).Proper ∧ (exponential ds e).text = DecimalLayout.exponential ds e ∧
      (exponential ds e).exponentValue = some e ∧ (exponential ds e).whole.length = 1 := by
  obtain ⟨d, more, rfl⟩ := List.exists_cons_of_ne_nil h.ne
  obtain ⟨hd, hmore⟩ := List.forall_mem_cons.mp h.digits
  have hsign : (exponential (d :: more) e).exponentText =
      'e' :: (if e < 0 then '-' else '+') :: Decimal.digits e.natAbs := by
    simp [exponentText, exponential]
  refine ⟨⟨List.cons_ne_nil _ _, ?_, fun hhead => absurd hhead h.head, ?_, ?_⟩, ?_, ?_, rfl⟩
  · intro c hc
    rw [List.mem_singleton.mp hc]
    exact hd
  · intro s hs
    rw [exponential] at hs
    rcases more with _ | ⟨c, more⟩
    · cases hs
    · obtain rfl : c :: more = s := Option.some.inj hs
      exact ⟨List.cons_ne_nil _ _, hmore⟩
  · rintro _ ⟨⟩
    exact ⟨Nat.toDigits_ne_nil,
      fun c hc => Nat.isDigit_of_mem_toDigits (by decide) (by decide) hc⟩
  · rw [text, hsign]
    rcases more with _ | ⟨c, more⟩ <;> rfl
  · have hdigits : Nat.ofDigitChars 10 (Decimal.digits e.natAbs) 0 = e.natAbs :=
      Nat.ofDigitChars_ten_toDigits
    simp only [exponentValue, exponential, Option.map_some, hdigits, decide_eq_true_eq]
    congr 1
    split <;> omega

/-- The parts of an unsigned number that is not an integer, whose value has no more places. -/
structure Spells (n : Numeral) (s : List Char) (places : Int) : Prop where
  proper : n.Proper
  text : n.text = s
  noInteger : n.fraction.isSome ∨ n.exponent.isSome
  places : (n.whole.length : Int) + n.exponentValue.getD 0 ≤ places

theorem exists_spells_write {d : Decimal} (h : 0 < d.coefficient) :
    ∃ n : Numeral, n.negative = false ∧ n.Spells (Binary64.layout.write d) (max 16 d.top) := by
  obtain ⟨hpos, htop⟩ := Decimal.trimmed_spec h
  have hds := significant_digits hpos
  have hlength : 0 < (Decimal.digits d.trimmed.coefficient).length := Nat.length_toDigits_pos
  rw [DecimalLayout.write, Decimal.scientific]
  dsimp only
  split
  next hrange =>
    obtain ⟨hproper, htext, hfraction, hexponent, hwhole⟩ := positional_spec hds hrange.2
    refine ⟨_, ?_, hproper, htext, Or.inl hfraction, ?_⟩
    · rw [positional]
      split
      · rfl
      · split <;> rfl
    · rw [exponentValue, hexponent, Option.map_none, Option.getD_none]
      omega
  next =>
    obtain ⟨hproper, htext, hexponent, hwhole⟩ := exponential_spec hds
      (e := d.trimmed.exponent + ((Decimal.digits d.trimmed.coefficient).length - 1 : Nat))
    refine ⟨_, rfl, hproper, htext, Or.inr rfl, ?_⟩
    rw [hwhole, hexponent, Option.getD_some]
    rw [Decimal.top] at htop
    omega

/-- The parts of zero. -/
def zero : Numeral := ⟨false, ['0'], some ['0'], none⟩

theorem zero_spells : zero.Spells ['0', '.', '0'] 16 where
  proper :=
    { whole_ne := by decide
      whole := List.forall_mem_singleton.mpr isDigit_zero
      zero := fun _ => rfl
      fraction := by
        rintro ds ⟨⟩
        exact ⟨by decide, List.forall_mem_singleton.mpr isDigit_zero⟩
      exponent := fun _ h => nomatch h }
  text := rfl
  noInteger := Or.inl rfl
  places := by decide

/-- The text of a finite double without its sign. -/
def unsignedText (x : Binary64) : List Char :=
  ((Binary64.shortest? x.magnitude).map fun d =>
    if x.isZero then ['0', '.', '0'] else Binary64.layout.write d).getD ['0', '.', '0']

theorem toList_text {x : Binary64} (hx : x.isFinite) :
    x.text.toList = (if x.negative then ['-'] else []) ++ unsignedText x := by
  rw [Binary64.text, Binary64.not_isNaN_of_isFinite hx, Binary64.not_isInfinite_of_isFinite hx,
    unsignedText]
  simp only [Bool.false_eq_true, if_false, String.toList_ofList]
  rcases Binary64.shortest? x.magnitude with _ | d <;> rfl

theorem exists_spells_unsignedText {x : Binary64} {places : Nat}
    (hu : x.units < Binary64.unitsPerOne * 10 ^ places) :
    ∃ n : Numeral, n.negative = false ∧ n.Spells (unsignedText x) (max 16 (places + 1)) := by
  have hzero : ∃ n : Numeral, n.negative = false ∧
      n.Spells ['0', '.', '0'] (max 16 (places + 1)) :=
    ⟨zero, rfl, { zero_spells with places := Int.le_trans zero_spells.places (Int.le_max_left ..) }⟩
  rw [unsignedText]
  rcases hshortest : Binary64.shortest? x.magnitude with _ | d
  · exact hzero
  · rw [Option.map_some, Option.getD_some]
    split
    next => exact hzero
    next hne =>
      have hpos : 0 < x.magnitude := Nat.pos_of_ne_zero fun h => hne (beq_iff_eq.mpr h)
      obtain ⟨hcoefficient, htop⟩ := Binary64.top_le_of_shortest? hpos hu hshortest
      obtain ⟨n, hsign, hn⟩ := exists_spells_write hcoefficient
      exact ⟨n, hsign, { hn with places := Int.le_trans hn.places (by omega) }⟩

/-- The text of a finite double is a number that is put together from parts. -/
theorem exists_spells_text {x : Binary64} {places : Nat} (hx : x.isFinite)
    (hu : x.units < Binary64.unitsPerOne * 10 ^ places) :
    ∃ n : Numeral, n.Spells x.text.toList (max 16 (places + 1)) := by
  obtain ⟨n, hsign, hn⟩ := exists_spells_unsignedText hu
  refine ⟨{ n with negative := x.negative }, ?_, ?_, hn.noInteger, hn.places⟩
  · exact ⟨hn.proper.whole_ne, hn.proper.whole, hn.proper.zero, hn.proper.fraction,
      hn.proper.exponent⟩
  · rw [toList_text hx, ← hn.text]
    rw [text, text, sign, sign, hsign]
    rfl

end Token.Numeral

open Token in
/-- **The text of a finite double is read as a finite double**, if it is not very large. -/
theorem Number.legible_float {x : Binary64} {places : Nat} (hx : x.isFinite)
    (hu : x.units < Binary64.unitsPerOne * 10 ^ places) (hplaces : places < Literal.safeExponent) :
    (Number.float x).Legible ∧
      ∃ y : Binary64, (Number.float x).reread = .float y ∧ y.isFinite := by
  obtain ⟨n, hn⟩ := Numeral.exists_spells_text hx hu
  have hsize : (n.literal.whole.length : Int) + n.literal.exponent.getD 0 ≤
      Literal.safeExponent := by
    have hle := hn.places
    have hlength : n.literal.whole.length = n.whole.length := List.length_map _
    have hexponent : n.literal.exponent = n.exponentValue := rfl
    have hsafe : Literal.safeExponent = 280 := rfl
    rw [hlength, hexponent]
    omega
  obtain ⟨y, hdouble, hy⟩ := Literal.double?_finite hsize
  have hvalue : n.value? = some (.float y) := by
    -- it is no integer, because it has a point or an exponent
    have hparts : ¬ (n.literal.fraction.isNone ∧ n.literal.exponent.isNone ∧
        (Literal.absorb 0 n.literal.whole).2 = []) := by
      rintro ⟨hfraction, hexponent, -⟩
      rcases hn.noInteger with h | h
      · simp [Numeral.literal] at hfraction
        simp [hfraction] at h
      · simp [Numeral.literal, Numeral.exponentValue] at hexponent
        simp [hexponent] at h
    rw [Numeral.value?, Number.ofLiteral?]
    dsimp only
    rw [if_neg hparts, hdouble, Option.map_some]
  -- so the text is scanned as that double wherever it stands
  have hscan : ∀ rest, Stops rest →
      scan ((Number.float x).text.toList ++ rest) = some (.number (.float y), rest) := by
    intro rest hrest
    rw [Number.text, ← hn.text]
    exact Numeral.scan_text hn.proper hrest hvalue
  obtain ⟨hlegible, hreread⟩ := Number.legible_of_scan hscan
  exact ⟨hlegible, y, hreread, hy⟩

/-- A double can be read as some double; what is no number of its own is nothing. -/
theorem readable_ofFloat (limit : Nat) {x : Binary64} {places : Nat}
    (hu : x.units < Binary64.unitsPerOne * 10 ^ places) (hplaces : places < Literal.safeExponent) :
    Readable limit (.ofFloat x) := by
  rw [ofFloat]
  by_cases hx : x.isFinite
  · rw [if_pos hx]
    obtain ⟨hlegible, y, hreread, hy⟩ := Number.legible_float hx hu hplaces
    refine ⟨.number hlegible, ?_⟩
    rw [reread, hreread]
    exact .float limit hy
  · rw [if_neg hx]
    exact readable_null limit

end QueueDrain.Json
