import QueueDrain.Json.Printer
import QueueDrain.Json.Token
import QueueDrain.Proofs.Text.Integer

/-!
Scanning what was written.

A string is scanned back as it was (`scanString_escape`).  A number that is put together from its
parts (`Numeral`) is scanned to the literal with these parts, whatever follows it, as long as
nothing of that belongs to a number (`scanLiteral_text`); an integer of 64 bits is such a number,
and its literal stands for it (`scan_int`).
-/

namespace QueueDrain.Json.Token

/-! ### Strings -/

theorem hexValue?_hexDigit {n : Nat} (h : n < 16) : Text.hexValue? (hexDigit n) = some n := by
  have hall : ∀ n < 16, Text.hexValue? (hexDigit n) = some n := by decide
  exact hall n h

theorem scanHex_control {n : Nat} (h : n < 32) (rest : List Char) :
    scanHex ('0' :: '0' :: hexDigit (n / 16) :: hexDigit (n % 16) :: rest) = some (n, rest) := by
  have hzero : Text.hexValue? '0' = some 0 := by decide
  rw [scanHex, hzero, hexValue?_hexDigit (by omega), hexValue?_hexDigit (by omega)]
  dsimp only
  rw [show ((0 * 16 + 0) * 16 + n / 16) * 16 + n % 16 = n by omega]

theorem scanUnicode_control {c : Char} (h : c < ' ') (rest : List Char) :
    scanUnicode ('0' :: '0' :: hexDigit (c.toNat / 16) :: hexDigit (c.toNat % 16) :: rest) =
      some (c, rest) := by
  have hlt : c.toNat < 32 := h
  rw [scanUnicode, scanHex_control hlt]
  dsimp only
  rw [if_neg (by omega), if_neg (by omega), Char.ofNat_toNat]

/-- A character that was written inside a string is read back. -/
theorem scanChar_escape (c : Char) (rest : List Char) :
    scanChar (escape c ++ rest) = some (some c, rest) := by
  rw [escape]
  -- the seven characters with an escape of their own, then the other control characters
  split
  next h => subst h; rfl
  split
  next h => subst h; rfl
  split
  next h => subst h; rfl
  split
  next h => subst h; rfl
  split
  next h => subst h; rfl
  split
  next h => subst h; rfl
  split
  next h => subst h; rfl
  split
  next hlt =>
    show Option.map _
      (scanUnicode ('0' :: '0' :: hexDigit (c.toNat / 16) :: hexDigit (c.toNat % 16) :: rest)) = _
    rw [scanUnicode_control hlt]
    rfl
  next hquote hslash _ _ _ _ _ hlt =>
    rw [List.singleton_append]
    unfold scanChar
    dsimp only
    rw [if_neg hquote, if_neg hslash, if_neg hlt]

theorem scanString_of_scanChar {s rest : List Char} {c : Char}
    (h : scanChar s = some (some c, rest)) :
    scanString s = (scanString rest).map fun (cs, rest) => (c :: cs, rest) := by
  rw [scanString]
  split
  next hnone => cases hnone.symm.trans h
  next hclose => cases hclose.symm.trans h
  next d after hsome =>
    cases hsome.symm.trans h
    rfl

theorem scanString_of_none {s : List Char} (h : scanChar s = none) : scanString s = none := by
  rw [scanString]
  split
  next => rfl
  next hclose => cases hclose.symm.trans h
  next hsome => cases hsome.symm.trans h

theorem eq_of_scanChar_close {s rest : List Char} (h : scanChar s = some (none, rest)) :
    s = '"' :: rest := by
  unfold scanChar at h
  split at h
  next => cases h
  next c s =>
    split at h
    next hquote =>
      cases h
      rw [hquote]
    next =>
      split at h
      next =>
        split at h
        next => cases h
        next =>
          split at h
          next =>
            obtain ⟨⟨c', rest'⟩, -, heq⟩ := Option.map_eq_some_iff.mp h
            cases heq
          next =>
            obtain ⟨c', -, heq⟩ := Option.map_eq_some_iff.mp h
            cases heq
      next => split at h <;> cases h

theorem scanString_quote (t : List Char) : scanString ('"' :: t) = some ([], t) := by
  rw [scanString]
  rfl

/-- A string that was written is read back, up to its closing quote. -/
theorem scanString_escape (s rest : List Char) :
    scanString (s.flatMap escape ++ '"' :: rest) = some (s, rest) := by
  induction s with
  | nil => exact scanString_quote rest
  | cons c s ih =>
    rw [List.flatMap_cons, List.append_assoc, scanString_of_scanChar (scanChar_escape c _), ih]
    rfl

theorem scan_writeString (s : String) (rest : List Char) :
    scan (writeString s ++ rest) = some (.string s, rest) := by
  rw [writeString, List.cons_append, List.append_assoc]
  show Option.map _ (scanString (s.toList.flatMap escape ++ '"' :: rest)) = _
  rw [scanString_escape, Option.map_some]
  dsimp only
  rw [String.ofList_toList]

/-! ### Digits -/

/-- The value of a digit. -/
def digitValue (c : Char) : Nat := c.toNat - '0'.toNat

/-- Nothing at the start of a text belongs to a number before it. -/
def Stops : List Char → Prop
  | [] => True
  | c :: _ => ¬ c.isDigit ∧ c ≠ '.' ∧ c ≠ 'e' ∧ c ≠ 'E'

theorem stops_cons {c : Char} {rest : List Char}
    (h : ¬ c.isDigit ∧ c ≠ '.' ∧ c ≠ 'e' ∧ c ≠ 'E') : Stops (c :: rest) := h

/-- A text does not start with a digit. -/
def EndsDigits : List Char → Prop
  | [] => True
  | c :: _ => ¬ c.isDigit

theorem Stops.endsDigits {rest : List Char} (h : Stops rest) : EndsDigits rest := by
  rcases rest with _ | ⟨c, rest⟩
  · trivial
  · exact h.1

theorem scanDigits_of_endsDigits {rest : List Char} (h : EndsDigits rest) :
    scanDigits rest = ([], rest) := by
  rcases rest with _ | ⟨c, rest⟩
  · rfl
  · rw [scanDigits, Text.digitValue?_of_not_isDigit h]

theorem scanDigits_append {ds rest : List Char} (hds : ∀ c ∈ ds, c.isDigit)
    (hrest : EndsDigits rest) : scanDigits (ds ++ rest) = (ds.map digitValue, rest) := by
  induction ds with
  | nil => exact scanDigits_of_endsDigits hrest
  | cons c ds ih =>
    obtain ⟨hc, hds⟩ := List.forall_mem_cons.mp hds
    rw [List.cons_append, scanDigits, Text.digitValue?_of_isDigit hc]
    dsimp only
    rw [ih hds]
    rfl

theorem decimalValue_map (ds : List Char) :
    decimalValue (ds.map digitValue) = Nat.ofDigitChars 10 ds 0 := by
  -- the induction needs any value to start from
  have hfold : ∀ (ds : List Char) (v : Nat),
      (ds.map digitValue).foldl (fun n d => n * 10 + d) v = Nat.ofDigitChars 10 ds v := by
    intro ds
    induction ds with
    | nil => exact fun v => rfl
    | cons c ds ih =>
      intro v
      rw [List.map_cons, List.foldl_cons, ih, Nat.ofDigitChars_cons, Nat.mul_comm v 10]
      rfl
  exact hfold ds 0

/-! ### Numbers -/

/-- A number as it is written, part by part. -/
structure Numeral where
  negative : Bool
  whole : List Char
  /-- The digits after the point, if there is one. -/
  fraction : Option (List Char)
  /-- Whether the exponent is negative, and its digits, if there is one. -/
  exponent : Option (Bool × List Char)

namespace Numeral

def sign (n : Numeral) : List Char := if n.negative then ['-'] else []

def fractionText (n : Numeral) : List Char :=
  match n.fraction with
  | none => []
  | some ds => '.' :: ds

def exponentText (n : Numeral) : List Char :=
  match n.exponent with
  | none => []
  | some (negative, ds) => 'e' :: (if negative then '-' else '+') :: ds

/-- The parts one after the other. -/
def text (n : Numeral) : List Char := n.sign ++ (n.whole ++ (n.fractionText ++ n.exponentText))

/-- The value of the exponent. -/
def exponentValue (n : Numeral) : Option Int :=
  n.exponent.map fun (negative, ds) =>
    if negative then -(Nat.ofDigitChars 10 ds 0 : Int) else Nat.ofDigitChars 10 ds 0

/-- The literal with these parts. -/
def literal (n : Numeral) : Literal where
  negative := n.negative
  whole := n.whole.map digitValue
  fraction := n.fraction.map (·.map digitValue)
  exponent := n.exponentValue

/-- Every part has digits, and there is no zero before other digits. -/
structure Proper (n : Numeral) : Prop where
  whole_ne : n.whole ≠ []
  whole : ∀ c ∈ n.whole, c.isDigit
  zero : n.whole.head? = some '0' → n.whole = ['0']
  fraction : ∀ ds ∈ n.fraction, ds ≠ [] ∧ ∀ c ∈ ds, c.isDigit
  exponent : ∀ e ∈ n.exponent, e.2 ≠ [] ∧ ∀ c ∈ e.2, c.isDigit

variable {n : Numeral} {rest : List Char}

theorem scanExponent_plus {s : List Char} {d : Nat} {ds : List Nat}
    (h : scanDigits s = (d :: ds, rest)) :
    scanExponent ('e' :: '+' :: s) = some (some (decimalValue (d :: ds) : Int), rest) := by
  simp [scanExponent, h]

theorem scanExponent_minus {s : List Char} {d : Nat} {ds : List Nat}
    (h : scanDigits s = (d :: ds, rest)) :
    scanExponent ('e' :: '-' :: s) = some (some (-(decimalValue (d :: ds) : Int)), rest) := by
  simp [scanExponent, h]

theorem scanExponent_of_stops (h : Stops rest) : scanExponent rest = some (none, rest) := by
  rcases rest with _ | ⟨c, rest⟩
  · rfl
  · have hc : ¬ (c = 'e' ∨ c = 'E') := by simp [h.2.2.1, h.2.2.2]
    unfold scanExponent
    dsimp only
    rw [if_neg hc]

theorem scanExponent_text (h : n.Proper) (hrest : Stops rest) :
    scanExponent (n.exponentText ++ rest) = some (n.exponentValue, rest) := by
  rw [exponentText, exponentValue]
  rcases hexponent : n.exponent with _ | ⟨negative, ds⟩
  · exact scanExponent_of_stops hrest
  · obtain ⟨hne, hds⟩ := h.exponent _ hexponent
    obtain ⟨d, ds', rfl⟩ := List.exists_cons_of_ne_nil hne
    have hscan := scanDigits_append hds hrest.endsDigits
    rw [List.map_cons] at hscan
    have hvalue := decimalValue_map (d :: ds')
    rw [List.map_cons] at hvalue
    cases negative
    · show scanExponent ('e' :: '+' :: (d :: ds' ++ rest)) = _
      rw [scanExponent_plus hscan, hvalue]
      rfl
    · show scanExponent ('e' :: '-' :: (d :: ds' ++ rest)) = _
      rw [scanExponent_minus hscan, hvalue]
      rfl

theorem scanFraction_of_ne {s : List Char} (h : ∀ s', s ≠ '.' :: s') :
    scanFraction s = some (none, s) := by
  unfold scanFraction
  split
  next s' => exact absurd rfl (h s')
  next => rfl

theorem scanFraction_point {s : List Char} {d : Nat} {ds : List Nat}
    (h : scanDigits s = (d :: ds, rest)) :
    scanFraction ('.' :: s) = some (some (d :: ds), rest) := by
  simp [scanFraction, h]

/-- What follows the digits of a number is no digit. -/
theorem endsDigits_exponentText (n : Numeral) (hrest : Stops rest) :
    EndsDigits (n.exponentText ++ rest) := by
  rw [exponentText]
  rcases n.exponent with _ | ⟨negative, ds⟩
  · exact hrest.endsDigits
  · exact (by decide : ¬ 'e'.isDigit)

theorem endsDigits_fractionText (n : Numeral) (hrest : Stops rest) :
    EndsDigits (n.fractionText ++ (n.exponentText ++ rest)) := by
  rw [fractionText]
  rcases n.fraction with _ | ds
  · exact endsDigits_exponentText n hrest
  · exact (by decide : ¬ '.'.isDigit)

theorem scanFraction_text (h : n.Proper) (hrest : Stops rest) :
    scanFraction (n.fractionText ++ (n.exponentText ++ rest)) =
      some (n.fraction.map (·.map digitValue), n.exponentText ++ rest) := by
  rw [fractionText]
  rcases hfraction : n.fraction with _ | ds
  · refine scanFraction_of_ne fun s' hs' => ?_
    rw [List.nil_append, exponentText] at hs'
    rcases hexponent : n.exponent with _ | ⟨negative, ds⟩
    · rw [hexponent, List.nil_append] at hs'
      rw [hs'] at hrest
      exact hrest.2.1 rfl
    · rw [hexponent] at hs'
      cases hs'
  · obtain ⟨hne, hds⟩ := h.fraction _ hfraction
    obtain ⟨d, ds', rfl⟩ := List.exists_cons_of_ne_nil hne
    exact scanFraction_point (scanDigits_append hds (endsDigits_exponentText n hrest))

/-- No zero stands before other digits. -/
theorem Proper.noLeadingZero (h : n.Proper) :
    ¬ ((n.whole.map digitValue).head? = some 0 ∧ n.whole.map digitValue ≠ [0]) := by
  rintro ⟨hhead, hne⟩
  obtain ⟨d, ds, hwhole⟩ := List.exists_cons_of_ne_nil h.whole_ne
  rw [hwhole, List.map_cons, List.head?_cons, Option.some.injEq] at hhead
  have hdigit : d.isDigit := h.whole d (hwhole ▸ List.mem_cons_self)
  -- the only digit of value zero is the zero itself
  have hd : d = '0' := by
    have hle := (Text.isDigit_iff.mp hdigit).1
    refine Char.ext (UInt32.toNat_inj.mp (Nat.le_antisymm ?_ hle))
    exact Nat.le_of_sub_eq_zero hhead
  subst hd
  rw [h.zero (by rw [hwhole]; rfl)] at hne
  exact hne rfl

/-- The text without a sign, of a number that is written as `s`. -/
inductive Unsigned : (s : List Char) → Bool → List Char → Prop where
  | minus (s : List Char) : Unsigned ('-' :: s) true s
  | plain {s : List Char} (h : ∀ s', s ≠ '-' :: s') : Unsigned s false s

theorem scanLiteral_of_parts {s t after after' : List Char} {negative : Bool} {d : Nat}
    {ds : List Nat} {fraction : Option (List Nat)} {exponent : Option Int}
    (hsign : Unsigned s negative t) (hdigits : scanDigits t = (d :: ds, after))
    (hzero : ¬ ((d :: ds).head? = some 0 ∧ d :: ds ≠ [0]))
    (hfraction : scanFraction after = some (fraction, after'))
    (hexponent : scanExponent after' = some (exponent, rest)) :
    scanLiteral s = some (⟨negative, d :: ds, fraction, exponent⟩, rest) := by
  cases hsign with
  | minus => simp only [scanLiteral, hdigits, if_neg hzero, hfraction, hexponent]
  | plain hne =>
    unfold scanLiteral
    split
    next negative t heq =>
      split at heq
      next s' => exact absurd rfl (hne s')
      next =>
        cases heq
        simp only [hdigits, if_neg hzero, hfraction, hexponent]

/-- A number that is put together from parts is scanned to these parts. -/
theorem scanLiteral_text (h : n.Proper) (hrest : Stops rest) :
    scanLiteral (n.text ++ rest) = some (n.literal, rest) := by
  obtain ⟨d, ds, hwhole⟩ := List.exists_cons_of_ne_nil h.whole_ne
  have hdigits := scanDigits_append h.whole (endsDigits_fractionText n hrest)
  have hzero := h.noLeadingZero
  have hsign : Unsigned (n.text ++ rest) n.negative
      (n.whole ++ (n.fractionText ++ (n.exponentText ++ rest))) := by
    rw [text, sign, List.append_assoc, List.append_assoc, List.append_assoc]
    cases n.negative
    · refine .plain fun s' hs' => ?_
      rw [hwhole] at hs'
      have hd : d = '-' := (List.cons.inj hs').1
      exact absurd (h.whole d (hwhole ▸ List.mem_cons_self)) (by rw [hd]; decide)
    · exact .minus _
  have hmap : n.whole.map digitValue = digitValue d :: ds.map digitValue := by
    rw [hwhole, List.map_cons]
  rw [hmap] at hdigits hzero
  rw [scanLiteral_of_parts hsign hdigits hzero (scanFraction_text h hrest)
    (scanExponent_text h hrest), literal, hmap]

/-- The number that the parts stand for, if it is not too large. -/
def value? (n : Numeral) : Option Number := Number.ofLiteral? n.literal

theorem exists_text_eq_cons (h : n.Proper) :
    ∃ c s, n.text = c :: s ∧ (c = '-' ∨ c.isDigit) := by
  obtain ⟨d, ds, hwhole⟩ := List.exists_cons_of_ne_nil h.whole_ne
  rw [text, sign, hwhole]
  cases n.negative
  · exact ⟨d, _, rfl, Or.inr (h.whole d (hwhole ▸ List.mem_cons_self))⟩
  · exact ⟨'-', _, rfl, Or.inl rfl⟩

theorem scan_of_scanLiteral {c : Char} {s : List Char} {l : Literal}
    (hc : c = '-' ∨ c.isDigit) (h : scanLiteral (c :: s) = some (l, rest)) :
    scan (c :: s) =
      some (.number ((Number.ofLiteral? l).getD (.float (.infinity l.negative))), rest) := by
  have hne : ∀ d : Char, d ≠ '-' → ¬ d.isDigit → c ≠ d := by
    rintro d hminus hdigit rfl
    exact hc.elim hminus hdigit
  unfold scan
  split
  -- no other token starts like a number
  all_goals first
    | rename_i heq
      exact absurd (List.cons.inj heq).1 (hne _ (by decide) (by decide))
    | rw [h]

/-- A number that is put together from parts is the token of what the parts stand for. -/
theorem scan_text (h : n.Proper) (hrest : Stops rest) {number : Number}
    (hvalue : n.value? = some number) : scan (n.text ++ rest) = some (.number number, rest) := by
  have hscan := scanLiteral_text h hrest
  obtain ⟨c, s, htext, hc⟩ := exists_text_eq_cons h
  rw [htext, List.cons_append] at hscan ⊢
  rw [scan_of_scanLiteral hc hscan, ← value?, hvalue, Option.getD_some]

/-! ### The parts of literals -/

/-- The digits of an exponent that is written as `s`, perhaps after a sign. -/
inductive Signed : (s : List Char) → Bool → List Char → Prop where
  | minus (s : List Char) : Signed ('-' :: s) true s
  | plus (s : List Char) : Signed ('+' :: s) false s
  | plain {s : List Char} (hminus : ∀ s', s ≠ '-' :: s') (hplus : ∀ s', s ≠ '+' :: s') :
    Signed s false s

theorem exists_signed (s : List Char) : ∃ negative t, Signed s negative t := by
  by_cases hminus : ∃ s', s = '-' :: s'
  · obtain ⟨s', rfl⟩ := hminus
    exact ⟨true, s', .minus s'⟩
  · by_cases hplus : ∃ s', s = '+' :: s'
    · obtain ⟨s', rfl⟩ := hplus
      exact ⟨false, s', .plus s'⟩
    · exact ⟨false, s, .plain (fun s' h => hminus ⟨s', h⟩) fun s' h => hplus ⟨s', h⟩⟩

theorem scanExponent_of_signed {c : Char} (hc : c = 'e' ∨ c = 'E') {s t : List Char}
    {negative : Bool} (h : Signed s negative t) :
    scanExponent (c :: s) =
      match scanDigits t with
      | ([], _) => none
      | (ds, rest) =>
        some (some (if negative then -(decimalValue ds : Int) else decimalValue ds), rest) := by
  unfold scanExponent
  dsimp only
  rw [if_pos hc]
  cases h with
  | minus => rfl
  | plus => rfl
  | plain hminus hplus =>
    cases s with
    | nil => rfl
    | cons d s =>
      rcases hdigits : scanDigits (d :: s) with ⟨_ | ⟨e, ds⟩, rest⟩ <;> simp [hdigits]

/-- What stands before the rest of a text: a point and digits, or no fraction. -/
inductive Fraction : (s : List Char) → Option (List Nat) → List Char → Prop where
  | point {s rest : List Char} {d : Nat} {ds : List Nat} (digits : scanDigits s = (d :: ds, rest)) :
    Fraction ('.' :: s) (some (d :: ds)) rest
  | none {s : List Char} (h : ∀ s', s ≠ '.' :: s') : Fraction s none s

theorem fraction_of_scanFraction {s rest : List Char} {fraction : Option (List Nat)}
    (h : scanFraction s = some (fraction, rest)) : Fraction s fraction rest := by
  by_cases hpoint : ∃ s', s = '.' :: s'
  · obtain ⟨s', rfl⟩ := hpoint
    rcases hdigits : scanDigits s' with ⟨_ | ⟨d, ds⟩, after⟩
    · simp [scanFraction, hdigits] at h
    · rw [scanFraction_point hdigits] at h
      cases h
      exact .point hdigits
  · have hne : ∀ s', s ≠ '.' :: s' := fun s' heq => hpoint ⟨s', heq⟩
    rw [scanFraction_of_ne hne] at h
    cases h
    exact .none hne

/-- What stands before the rest of a text: a letter, perhaps a sign, and digits, or no exponent. -/
inductive Exponent : (s : List Char) → Option Int → List Char → Prop where
  | letter {c : Char} {s t rest : List Char} {negative : Bool} {d : Nat} {ds : List Nat}
    (letter : c = 'e' ∨ c = 'E') (sign : Signed s negative t)
    (digits : scanDigits t = (d :: ds, rest)) :
    Exponent (c :: s)
      (some (if negative then -(decimalValue (d :: ds) : Int) else decimalValue (d :: ds))) rest
  | none {s : List Char} (h : ∀ c ∈ s.head?, ¬(c = 'e' ∨ c = 'E')) : Exponent s none s

theorem scanExponent_of_not_letter {s : List Char} (h : ∀ c ∈ s.head?, ¬(c = 'e' ∨ c = 'E')) :
    scanExponent s = some (none, s) := by
  cases s with
  | nil => rfl
  | cons c s => exact if_neg (h c rfl)

theorem exponent_of_scanExponent {s rest : List Char} {exponent : Option Int}
    (h : scanExponent s = some (exponent, rest)) : Exponent s exponent rest := by
  by_cases hletter : ∃ c s', s = c :: s' ∧ (c = 'e' ∨ c = 'E')
  · obtain ⟨c, s, rfl, hc⟩ := hletter
    obtain ⟨negative, t, hsigned⟩ := exists_signed s
    rw [scanExponent_of_signed hc hsigned] at h
    rcases hdigits : scanDigits t with ⟨_ | ⟨d, ds⟩, after⟩
    · rw [hdigits] at h
      cases h
    · rw [hdigits] at h
      cases h
      exact .letter hc hsigned hdigits
  · have hother : ∀ c ∈ s.head?, ¬(c = 'e' ∨ c = 'E') := by
      intro c hc hletter'
      obtain ⟨s', rfl⟩ := List.head?_eq_some_iff.mp hc
      exact hletter ⟨c, s', rfl, hletter'⟩
    rw [scanExponent_of_not_letter hother] at h
    cases h
    exact .none hother

/-- A literal has parts, from which it can be put together. -/
theorem exists_parts {s rest : List Char} {l : Literal} (h : scanLiteral s = some (l, rest)) :
    ∃ t after after' d ds, Unsigned s l.negative t ∧ scanDigits t = (d :: ds, after) ∧
      ¬((d :: ds).head? = some 0 ∧ d :: ds ≠ [0]) ∧ scanFraction after = some (l.fraction, after') ∧
      scanExponent after' = some (l.exponent, rest) ∧ l.whole = d :: ds := by
  unfold scanLiteral at h
  split at h
  next negative t hsign =>
    have hunsigned : Unsigned s negative t := by
      split at hsign
      next t' =>
        cases hsign
        exact .minus t
      next hminus =>
        cases hsign
        exact .plain hminus
    rcases hdigits : scanDigits t with ⟨_ | ⟨d, ds⟩, after⟩
    · rw [hdigits] at h
      cases h
    · rw [hdigits] at h
      dsimp only at h
      split at h
      next => cases h
      next hzero =>
        split at h
        next => cases h
        next fraction after' hfraction =>
          split at h
          next => cases h
          next exponent rest' hexponent =>
            cases h
            exact ⟨t, after, after', d, ds, hunsigned, hdigits, hzero, hfraction, hexponent, rfl⟩

theorem exists_eq_cons_of_scanLiteral {s rest : List Char} {l : Literal}
    (h : scanLiteral s = some (l, rest)) : ∃ c s', s = c :: s' ∧ (c = '-' ∨ c.isDigit) := by
  obtain ⟨t, after, after', d, ds, hunsigned, hdigits, -⟩ := exists_parts h
  generalize l.negative = negative at hunsigned
  cases hunsigned with
  | minus t => exact ⟨'-', t, rfl, Or.inl rfl⟩
  | plain hminus =>
    cases s with
    | nil => cases hdigits
    | cons c s =>
      refine ⟨c, s, rfl, Or.inr (Decidable.of_not_not fun hdigit => ?_)⟩
      rw [scanDigits, Text.digitValue?_of_not_isDigit hdigit] at hdigits
      cases hdigits

/-! ### Integers -/

/-- The parts of an integer. -/
def ofInt (n : Int) : Numeral where
  negative := n < 0
  whole := Nat.toDigits 10 n.natAbs
  fraction := none
  exponent := none

theorem ofInt_proper (n : Int) : (ofInt n).Proper where
  whole_ne := Nat.toDigits_ne_nil
  whole _ hc := Nat.isDigit_of_mem_toDigits (by decide) (by decide) hc
  zero h := by
    rcases Nat.eq_zero_or_pos n.natAbs with hzero | hpos
    · rw [ofInt, hzero]
      rfl
    · exact absurd h (Text.head?_toDigits hpos)
  fraction _ h := nomatch h
  exponent _ h := nomatch h

theorem ofInt_text (n : Int) : (ofInt n).text = (toString n).toList := by
  have htext : (ofInt n).text = (ofInt n).sign ++ Nat.toDigits 10 n.natAbs := by
    rw [text, fractionText, exponentText]
    exact congrArg _ (List.append_nil _)
  rw [htext, sign, ofInt]
  rcases n with m | m
  · rw [if_neg (by simp)]
    exact Nat.toList_repr.symm
  · rw [if_pos (by simp)]
    show '-' :: Nat.toDigits 10 (m + 1) = ("-" ++ (m + 1).repr).toList
    rw [String.toList_append, Nat.toList_repr]
    rfl

theorem absorb_of_le {ds : List Char} {v : Nat}
    (h : Nat.ofDigitChars 10 ds v ≤ Literal.significandLimit) :
    Literal.absorb v (ds.map digitValue) = (Nat.ofDigitChars 10 ds v, []) := by
  induction ds generalizing v with
  | nil => rfl
  | cons c ds ih =>
    rw [Nat.ofDigitChars_cons] at h
    have hle := Text.le_ofDigitChars ds (10 * v + (c.toNat - '0'.toNat))
    have hv : v * 10 + digitValue c = 10 * v + (c.toNat - '0'.toNat) := by
      rw [digitValue, Nat.mul_comm]
    rw [List.map_cons, Literal.absorb, hv, if_neg (by omega), ih h, Nat.ofDigitChars_cons]

/-- The parts of an integer of 64 bits stand for it, whether it is signed or not. -/
theorem ofInt_value {n : Int} (hlow : -(Text.int64Limit : Int) ≤ n) (hhigh : n < UInt64.size) :
    (ofInt n).value? = some (.int n) := by
  have hlimit : Text.int64Limit ≤ Literal.significandLimit := by decide
  have hsize : Literal.significandLimit + 1 = UInt64.size := by decide
  have habsorb : Literal.absorb 0 (ofInt n).literal.whole = (n.natAbs, []) := by
    have hdigits : Nat.ofDigitChars 10 (ofInt n).whole 0 = n.natAbs :=
      Nat.ofDigitChars_ten_toDigits
    have hle : Nat.ofDigitChars 10 (ofInt n).whole 0 ≤ Literal.significandLimit := by omega
    exact (absorb_of_le hle).trans (by rw [hdigits])
  rw [value?, Number.ofLiteral?, habsorb]
  have hparts : (ofInt n).literal.fraction.isNone ∧ (ofInt n).literal.exponent.isNone ∧
      ([] : List Nat) = [] := ⟨rfl, rfl, rfl⟩
  dsimp only
  rw [if_pos hparts]
  by_cases hneg : n < 0
  · have hsign : (ofInt n).literal.negative = true := decide_eq_true hneg
    rw [hsign, if_neg (by simp), if_pos (by omega)]
    congr 2
    omega
  · have hsign : (ofInt n).literal.negative = false := decide_eq_false hneg
    rw [hsign, if_pos (by rfl)]
    congr 2
    omega

theorem scan_int {n : Int} (hlow : -(Text.int64Limit : Int) ≤ n) (hhigh : n < UInt64.size)
    (hrest : Stops rest) : scan ((toString n).toList ++ rest) = some (.number (.int n), rest) := by
  rw [← ofInt_text]
  exact scan_text (ofInt_proper n) hrest (ofInt_value hlow hhigh)

end Numeral

end QueueDrain.Json.Token
