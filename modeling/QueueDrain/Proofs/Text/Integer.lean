import QueueDrain.Text.Integer

/-!
Which texts are read as integers.

`SpellsInteger s n` says what a text spells: perhaps a sign, and the digits of `n` or of `-n`.
Reading accepts exactly the texts that spell a number within the bounds (`readInt64_eq_ok_iff`), and
the digits of a number are read as that number (`readNat64_toDigits`).
-/

namespace QueueDrain.Text

/-- A text is an integer in decimal notation: perhaps a sign, and at least one digit. -/
inductive SpellsInteger : List Char → Int → Prop where
  | unsigned {ds : List Char} (ne : ds ≠ []) (digits : ∀ c ∈ ds, c.isDigit) :
    SpellsInteger ds (Nat.ofDigitChars 10 ds 0)
  | plus {ds : List Char} (ne : ds ≠ []) (digits : ∀ c ∈ ds, c.isDigit) :
    SpellsInteger ('+' :: ds) (Nat.ofDigitChars 10 ds 0)
  | minus {ds : List Char} (ne : ds ≠ []) (digits : ∀ c ∈ ds, c.isDigit) :
    SpellsInteger ('-' :: ds) (-Nat.ofDigitChars 10 ds 0)

theorem isDigit_iff {c : Char} : c.isDigit ↔ '0' ≤ c ∧ c ≤ '9' := by
  rw [Char.isDigit, Bool.and_eq_true, decide_eq_true_iff, decide_eq_true_iff]
  rfl

theorem digitValue?_of_isDigit {c : Char} (h : c.isDigit) :
    digitValue? c = some (c.toNat - '0'.toNat) := by
  rw [digitValue?, if_pos (isDigit_iff.mp h)]

theorem digitValue?_of_not_isDigit {c : Char} (h : ¬ c.isDigit) : digitValue? c = none := by
  rw [digitValue?, if_neg fun hle => h (isDigit_iff.mpr hle)]

theorem le_ofDigitChars (s : List Char) (v : Nat) : v ≤ Nat.ofDigitChars 10 s v := by
  rw [Nat.ofDigitChars_eq_ofDigitChars_zero]
  have hpos : 1 ≤ 10 ^ s.length := Nat.one_le_pow _ _ (by decide)
  have hmul : 1 * v ≤ 10 ^ s.length * v := Nat.mul_le_mul_right v hpos
  omega

theorem readDigits_eq_ok_iff {limit : Nat} {overflow : IntegerError} {s : List Char} {v n : Nat}
    (hv : v ≤ limit) :
    readDigits limit overflow v s = .ok n ↔
      (∀ c ∈ s, c.isDigit) ∧ n = Nat.ofDigitChars 10 s v ∧ n ≤ limit := by
  induction s generalizing v with
  | nil =>
    simp only [readDigits, Except.ok.injEq, List.not_mem_nil, false_implies, implies_true,
      Nat.ofDigitChars_nil, true_and]
    omega
  | cons c s ih =>
    rw [readDigits, Nat.ofDigitChars_cons, List.forall_mem_cons]
    by_cases hc : c.isDigit
    · rw [digitValue?_of_isDigit hc]
      dsimp only
      rw [Nat.mul_comm v 10]
      by_cases hlimit : limit < 10 * v + (c.toNat - '0'.toNat)
      · -- digits only make a number larger, so it stays above the limit
        have hle := le_ofDigitChars s (10 * v + (c.toNat - '0'.toNat))
        rw [if_pos hlimit]
        constructor
        · intro h
          cases h
        · rintro ⟨-, rfl, hn⟩
          omega
      · rw [if_neg hlimit, ih (by omega)]
        simp [hc]
    · rw [digitValue?_of_not_isDigit hc]
      simp [hc]

/-! ### Signs -/

theorem readInteger_plus (below above : Nat) {s : List Char} (hne : s ≠ []) :
    readInteger below above ('+' :: s) = (readDigits above .tooLarge 0 s).map Int.ofNat := by
  obtain ⟨d, s, rfl⟩ := List.exists_cons_of_ne_nil hne
  rw [readInteger, if_pos rfl]
  · rcases readDigits above .tooLarge 0 (d :: s) with e | n <;> rfl
  · simp

theorem readInteger_minus {below above : Nat} (hbelow : 0 < below) {s : List Char} (hne : s ≠ []) :
    readInteger below above ('-' :: s)
      = (readDigits below .tooSmall 0 s).map fun n : Nat => -(n : Int) := by
  obtain ⟨d, s, rfl⟩ := List.exists_cons_of_ne_nil hne
  rw [readInteger, if_neg (by decide), if_pos ⟨rfl, hbelow⟩]
  simp

theorem readInteger_unsigned (below above : Nat) {c : Char} (s : List Char) (hplus : c ≠ '+')
    (hminus : c ≠ '-') :
    readInteger below above (c :: s) = (readDigits above .tooLarge 0 (c :: s)).map Int.ofNat := by
  rcases s with _ | ⟨d, s⟩
  · rw [readInteger, if_neg (by simp [hplus, hminus])]
    rcases readDigits above .tooLarge 0 [c] with e | n <;> rfl
  · rw [readInteger, if_neg hplus, if_neg (by simp [hminus])]
    · rcases readDigits above .tooLarge 0 (c :: d :: s) with e | n <;> rfl
    · simp

theorem map_readDigits_eq_ok_iff {limit : Nat} {overflow : IntegerError} {s : List Char}
    {f : Nat → Int} {n : Int} :
    (readDigits limit overflow 0 s).map f = .ok n ↔
      (∀ c ∈ s, c.isDigit) ∧ n = f (Nat.ofDigitChars 10 s 0) ∧
        Nat.ofDigitChars 10 s 0 ≤ limit := by
  have hread : ∀ m, readDigits limit overflow 0 s = .ok m ↔
      (∀ c ∈ s, c.isDigit) ∧ m = Nat.ofDigitChars 10 s 0 ∧ m ≤ limit := fun m =>
    readDigits_eq_ok_iff (Nat.zero_le limit)
  rcases h : readDigits limit overflow 0 s with e | m
  · rw [h] at hread
    simp only [Except.map, reduceCtorEq, false_iff]
    rintro ⟨hd, -, hle⟩
    exact nomatch (hread _).mpr ⟨hd, rfl, hle⟩
  · obtain ⟨hd, rfl, hle⟩ := (hread m).mp h
    simp only [Except.map, Except.ok.injEq]
    exact ⟨fun hn => ⟨hd, hn.symm, hle⟩, fun hn => hn.2.1.symm⟩

theorem SpellsInteger.unique {s : List Char} {m n : Int} (hm : SpellsInteger s m)
    (hn : SpellsInteger s n) : m = n := by
  -- a sign is no digit
  have hplus : ∀ ds : List Char, ¬ ∀ c ∈ '+' :: ds, c.isDigit := fun ds h =>
    absurd (h '+' (by simp)) (by decide)
  have hminus : ∀ ds : List Char, ¬ ∀ c ∈ '-' :: ds, c.isDigit := fun ds h =>
    absurd (h '-' (by simp)) (by decide)
  cases hm with
  | unsigned _ hd =>
    cases hn with
    | unsigned => rfl
    | plus => exact absurd hd (hplus _)
    | minus => exact absurd hd (hminus _)
  | plus =>
    cases hn with
    | unsigned _ hd => exact absurd hd (hplus _)
    | plus => rfl
  | minus =>
    cases hn with
    | unsigned _ hd => exact absurd hd (hminus _)
    | minus => rfl

/-- What a text without a sign spells. -/
theorem spellsInteger_iff_of_unsigned {c : Char} {s : List Char} {n : Int} (hplus : c ≠ '+')
    (hminus : c ≠ '-') :
    SpellsInteger (c :: s) n ↔
      (∀ d ∈ c :: s, d.isDigit) ∧ n = Nat.ofDigitChars 10 (c :: s) 0 := by
  constructor
  · intro h
    cases h with
    | unsigned _ hd => exact ⟨hd, rfl⟩
    | plus => exact absurd rfl hplus
    | minus => exact absurd rfl hminus
  · rintro ⟨hd, rfl⟩
    exact .unsigned (by simp) hd

theorem spellsInteger_plus_iff {s : List Char} {n : Int} :
    SpellsInteger ('+' :: s) n ↔
      s ≠ [] ∧ (∀ d ∈ s, d.isDigit) ∧ n = Nat.ofDigitChars 10 s 0 := by
  constructor
  · intro h
    cases h with
    | unsigned _ hd => exact absurd (hd '+' (by simp)) (by decide)
    | plus hne hd => exact ⟨hne, hd, rfl⟩
  · rintro ⟨hne, hd, rfl⟩
    exact .plus hne hd

theorem spellsInteger_minus_iff {s : List Char} {n : Int} :
    SpellsInteger ('-' :: s) n ↔
      s ≠ [] ∧ (∀ d ∈ s, d.isDigit) ∧ n = -Nat.ofDigitChars 10 s 0 := by
  constructor
  · intro h
    cases h with
    | unsigned _ hd => exact absurd (hd '-' (by simp)) (by decide)
    | minus hne hd => exact ⟨hne, hd, rfl⟩
  · rintro ⟨hne, hd, rfl⟩
    exact .minus hne hd

/-- Reading with a sign accepts what spells an integer within the bounds. -/
theorem readInteger_eq_ok_iff {below above : Nat} (hbelow : 0 < below) {s : List Char} {n : Int} :
    readInteger below above s = .ok n ↔ SpellsInteger s n ∧ -(below : Int) ≤ n ∧ n ≤ above := by
  rcases s with _ | ⟨c, s⟩
  · constructor
    · intro h
      cases h
    · rintro ⟨h, -⟩
      cases h with
      | unsigned hne => exact absurd rfl hne
  · by_cases hplus : c = '+'
    · subst hplus
      rw [spellsInteger_plus_iff]
      by_cases hne : s = []
      · subst hne
        simp [readInteger]
      · rw [readInteger_plus below above hne, map_readDigits_eq_ok_iff]
        simp only [Int.ofNat_eq_natCast]
        constructor
        · rintro ⟨hd, rfl, hle⟩
          exact ⟨⟨hne, hd, rfl⟩, by omega, by omega⟩
        · rintro ⟨⟨-, hd, rfl⟩, -, hle⟩
          exact ⟨hd, rfl, by omega⟩
    · by_cases hminus : c = '-'
      · subst hminus
        rw [spellsInteger_minus_iff]
        by_cases hne : s = []
        · subst hne
          simp [readInteger]
        · rw [readInteger_minus hbelow hne, map_readDigits_eq_ok_iff]
          constructor
          · rintro ⟨hd, rfl, hle⟩
            exact ⟨⟨hne, hd, rfl⟩, by omega, by omega⟩
          · rintro ⟨⟨-, hd, rfl⟩, hle, -⟩
            exact ⟨hd, rfl, by omega⟩
      · rw [spellsInteger_iff_of_unsigned hplus hminus,
          readInteger_unsigned below above s hplus hminus, map_readDigits_eq_ok_iff]
        simp only [Int.ofNat_eq_natCast]
        constructor
        · rintro ⟨hd, rfl, hle⟩
          exact ⟨⟨hd, rfl⟩, by omega, by omega⟩
        · rintro ⟨⟨hd, rfl⟩, -, hle⟩
          exact ⟨hd, rfl, by omega⟩

/-- **Reading accepts exactly the integers of 64 bits.** -/
theorem readInt64_eq_ok_iff {s : List Char} {n : Int} :
    readInt64 s = .ok n ↔ SpellsInteger s n ∧ -(int64Limit : Int) ≤ n ∧ n < int64Limit := by
  rw [readInt64, readInteger_eq_ok_iff (by decide)]
  have hlimit : ((int64Limit - 1 : Nat) : Int) = int64Limit - 1 := by decide
  rw [hlimit, Int.le_sub_one_iff]

/-! ### Digits of numbers -/

theorem toList_toString (n : Nat) : (toString n).toList = Nat.toDigits 10 n := Nat.toList_repr

theorem toDigits_inj {n m : Nat} (h : Nat.toDigits 10 n = Nat.toDigits 10 m) : n = m := by
  rw [← Nat.ofDigitChars_ten_toDigits (n := n), h, Nat.ofDigitChars_ten_toDigits]

theorem not_mem_digits {c : Char} (hc : ¬ c.isDigit) (n : Nat) : c ∉ Nat.toDigits 10 n := by
  intro h
  exact hc (Nat.isDigit_of_mem_toDigits (by decide) (by decide) h)

theorem toDigits_eq_cons (n : Nat) :
    ∃ c s, Nat.toDigits 10 n = c :: s ∧ c.isDigit := by
  obtain ⟨c, s, hcons⟩ := List.exists_cons_of_ne_nil (Nat.toDigits_ne_nil (b := 10) (n := n))
  refine ⟨c, s, hcons, Nat.isDigit_of_mem_toDigits (b := 10) (n := n) (by decide) (by decide) ?_⟩
  rw [hcons]
  exact List.mem_cons_self

/-- Only zero is written with a zero first. -/
theorem head?_toDigits {n : Nat} (h : 0 < n) : (Nat.toDigits 10 n).head? ≠ some '0' := by
  induction n using Nat.strongRecOn with
  | _ n ih =>
    rw [Nat.toDigits_eq_if (by decide)]
    by_cases hlt : n < 10
    · rw [if_pos hlt, List.head?_cons, ne_eq, Option.some.injEq, Nat.digitChar_eq_zero]
      omega
    · obtain ⟨c, s, hcons, -⟩ := toDigits_eq_cons (n / 10)
      have hne := ih (n / 10) (by omega) (by omega)
      rw [hcons] at hne
      rw [if_neg hlt, hcons]
      exact hne

/-- The digits of a number spell it. -/
theorem spellsInteger_toDigits (n : Nat) : SpellsInteger (Nat.toDigits 10 n) n := by
  have hspells : SpellsInteger (Nat.toDigits 10 n) (Nat.ofDigitChars 10 (Nat.toDigits 10 n) 0) :=
    .unsigned Nat.toDigits_ne_nil fun c hc =>
      Nat.isDigit_of_mem_toDigits (by decide) (by decide) hc
  rwa [Nat.ofDigitChars_ten_toDigits] at hspells

/-- The digits of a number of 64 bits are read as that number. -/
theorem readNat64_toDigits {n : Nat} (h : n < UInt64.size) :
    readNat64 (Nat.toDigits 10 n) = .ok n := by
  obtain ⟨c, s, hcons, hc⟩ := toDigits_eq_cons n
  have hread : readDigits (UInt64.size - 1) .tooLarge 0 (Nat.toDigits 10 n) = .ok n :=
    (readDigits_eq_ok_iff (Nat.zero_le _)).mpr
      ⟨fun d hd => Nat.isDigit_of_mem_toDigits (by decide) (by decide) hd,
        Nat.ofDigitChars_ten_toDigits.symm, by omega⟩
  have hplus : c ≠ '+' := by
    rintro rfl
    exact absurd hc (by decide)
  have hminus : c ≠ '-' := by
    rintro rfl
    exact absurd hc (by decide)
  rw [readNat64, hcons, readInteger_unsigned _ _ _ hplus hminus, ← hcons, hread]
  rfl

end QueueDrain.Text
