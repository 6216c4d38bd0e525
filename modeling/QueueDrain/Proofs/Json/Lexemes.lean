import QueueDrain.Json.Sketch
import QueueDrain.Proofs.Json.Scan
import QueueDrain.Proofs.Text.Bytes

/-!
Tokens of a text and tokens of its bytes.

What a scanner finds in a text is also found in its bytes, one by one (`exists_sketch`): marks,
names and numbers are made of small characters, and what follows them is a character that ends them
or the first byte of one that does.  A string is skipped with just its bytes (`exists_lexeme`), and
these alone are read as its text (`read?_bytewise`).

Design notes: a pair of surrogates is one character for who reads a string and two escapes for who
skips it, so letters of strings are compared one by one (`Letter`) and not escape by escape.
-/

namespace QueueDrain.Json.Token

open Text.Utf8

/-! ### Numbers -/

theorem digitValue?_of_not_isSmall {c : Char} (h : ¬IsSmall c) : Text.digitValue? c = none := by
  refine if_neg fun hdigit => h ?_
  have hle : c.val.toNat ≤ '9'.val.toNat := hdigit.2
  exact Nat.lt_of_le_of_lt hle (by decide)

theorem scanDigits_bytewise (s : List Char) :
    scanDigits (bytewise s) = ((scanDigits s).1, bytewise (scanDigits s).2) := by
  induction s with
  | nil => rw [bytewise_nil, scanDigits, bytewise_nil]
  | cons c s ih =>
    by_cases hc : IsSmall c
    · rw [bytewise_cons hc, scanDigits, scanDigits]
      cases Text.digitValue? c with
      | none => dsimp only; rw [bytewise_cons hc]
      | some d => dsimp only; rw [ih]
    · obtain ⟨d, t, heq, hd⟩ := exists_bytewise_eq_cons hc s
      rw [heq, scanDigits, digitValue?_of_not_isSmall hd, scanDigits,
        digitValue?_of_not_isSmall hc, heq]

theorem scanFraction_bytewise {s rest : List Char} {fraction : Option (List Nat)}
    (h : scanFraction s = some (fraction, rest)) :
    scanFraction (bytewise s) = some (fraction, bytewise rest) := by
  cases Numeral.fraction_of_scanFraction h with
  | point hdigits =>
    rw [bytewise_cons (by decide)]
    exact Numeral.scanFraction_point (by rw [scanDigits_bytewise, hdigits])
  | none hne =>
    refine Numeral.scanFraction_of_ne fun t ht => ?_
    obtain ⟨s', heq, -⟩ := exists_of_bytewise_eq_cons (by decide) ht
    exact hne s' heq

theorem signed_bytewise {s t : List Char} {negative : Bool} (h : Numeral.Signed s negative t) :
    Numeral.Signed (bytewise s) negative (bytewise t) := by
  cases h with
  | minus => rw [bytewise_cons (by decide)]; exact .minus _
  | plus => rw [bytewise_cons (by decide)]; exact .plus _
  | plain hminus hplus =>
    refine .plain (fun t ht => ?_) fun t ht => ?_
    · obtain ⟨s', heq, -⟩ := exists_of_bytewise_eq_cons (by decide) ht
      exact hminus s' heq
    · obtain ⟨s', heq, -⟩ := exists_of_bytewise_eq_cons (by decide) ht
      exact hplus s' heq

theorem isSmall_of_letter {c : Char} (h : c = 'e' ∨ c = 'E') : IsSmall c := by
  obtain rfl | rfl := h <;> decide

theorem scanExponent_bytewise {s rest : List Char} {exponent : Option Int}
    (h : scanExponent s = some (exponent, rest)) :
    scanExponent (bytewise s) = some (exponent, bytewise rest) := by
  cases Numeral.exponent_of_scanExponent h with
  | letter hc hsigned hdigits =>
    rw [bytewise_cons (isSmall_of_letter hc),
      Numeral.scanExponent_of_signed hc (signed_bytewise hsigned), scanDigits_bytewise, hdigits]
  | none hother =>
    refine Numeral.scanExponent_of_not_letter fun c hc hletter => ?_
    obtain ⟨t, ht⟩ := List.head?_eq_some_iff.mp hc
    -- a letter among the bytes is a letter of the text
    obtain ⟨s', rfl, -⟩ := exists_of_bytewise_eq_cons (isSmall_of_letter hletter) ht
    exact hother c rfl hletter

theorem unsigned_bytewise {s t : List Char} {negative : Bool}
    (h : Numeral.Unsigned s negative t) :
    Numeral.Unsigned (bytewise s) negative (bytewise t) := by
  cases h with
  | minus => rw [bytewise_cons (by decide)]; exact .minus _
  | plain hminus =>
    refine .plain fun t ht => ?_
    obtain ⟨s', heq, -⟩ := exists_of_bytewise_eq_cons (by decide) ht
    exact hminus s' heq

theorem scanLiteral_bytewise {s rest : List Char} {l : Literal}
    (h : scanLiteral s = some (l, rest)) :
    scanLiteral (bytewise s) = some (l, bytewise rest) := by
  obtain ⟨t, after, after', d, ds, hunsigned, hdigits, hzero, hfraction, hexponent, hwhole⟩ :=
    Numeral.exists_parts h
  have hdigits' : scanDigits (bytewise t) = (d :: ds, bytewise after) := by
    rw [scanDigits_bytewise, hdigits]
  rw [Numeral.scanLiteral_of_parts (unsigned_bytewise hunsigned) hdigits' hzero
    (scanFraction_bytewise hfraction) (scanExponent_bytewise hexponent), ← hwhole]

/-! ### Strings -/

/-- A character that stands for itself inside a string. -/
def IsPlain (c : Char) : Prop := c ≠ '"' ∧ c ≠ '\\' ∧ ¬c < ' '

theorem isPlain_of_not_isSmall {c : Char} (h : ¬IsSmall c) : IsPlain c := by
  refine ⟨?_, ?_, fun hlt => h ?_⟩
  · rintro rfl
    exact h (by decide)
  · rintro rfl
    exact h (by decide)
  · have hspace : c.val.toNat < ' '.val.toNat := hlt
    exact Nat.lt_trans hspace (by decide)

theorem skipString_of_skipChar {c : Char} {s rest after lexeme lexemes : List Char} (hc : c ≠ '"')
    (hchar : skipChar (c :: s) = some (lexeme, rest))
    (hrest : skipString rest = some (lexemes, after)) :
    skipString (c :: s) = some (lexeme ++ lexemes, after) := by
  rw [skipString, if_neg hc]
  split
  next hnone => cases hnone.symm.trans hchar
  next lexeme' rest' hsome =>
    cases hsome.symm.trans hchar
    rw [hrest]
    rfl

section Skip

variable {t lexeme rest : List Char}

theorem skipString_append {s : List Char} (hs : ∀ c ∈ s, IsPlain c)
    (h : skipString t = some (lexeme, rest)) :
    skipString (s ++ t) = some (s ++ lexeme, rest) := by
  induction s with
  | nil => exact h
  | cons c s ih =>
    obtain ⟨⟨hquote, hslash, hcontrol⟩, hs⟩ := List.forall_mem_cons.mp hs
    have hchar : skipChar (c :: (s ++ t)) = some ([c], s ++ t) := by
      unfold skipChar
      dsimp only
      rw [if_neg hslash, if_neg hcontrol]
    rw [List.cons_append, skipString_of_skipChar hquote hchar (ih hs)]
    rfl

theorem skipString_escape {e : Char} (hletter : e ≠ 'u') (he : (escaped? e).isSome)
    (h : skipString t = some (lexeme, rest)) :
    skipString ('\\' :: e :: t) = some ('\\' :: e :: lexeme, rest) := by
  have hchar : skipChar ('\\' :: e :: t) = some (['\\', e], t) := by
    rw [skipChar, if_pos rfl]
    dsimp only
    rw [if_neg hletter, if_pos he]
  exact skipString_of_skipChar (by decide) hchar h

theorem skipString_hex {a b c d : Char} {n : Nat}
    (hhex : scanHex (a :: b :: c :: d :: t) = some (n, t))
    (h : skipString t = some (lexeme, rest)) :
    skipString ('\\' :: 'u' :: a :: b :: c :: d :: t) =
      some ('\\' :: 'u' :: a :: b :: c :: d :: lexeme, rest) := by
  have hchar : skipChar ('\\' :: 'u' :: a :: b :: c :: d :: t) =
      some (['\\', 'u', a, b, c, d], t) := by
    rw [skipChar, if_pos rfl]
    dsimp only
    rw [if_pos rfl, hhex]
    rfl
  exact skipString_of_skipChar (by decide) hchar h

end Skip

theorem isSmall_of_hexValue? {c : Char} {n : Nat} (h : Text.hexValue? c = some n) : IsSmall c := by
  have hbound : ∀ d : Char, IsSmall d → c ≤ d → IsSmall c := fun d hd hle =>
    Nat.lt_of_le_of_lt (show c.val.toNat ≤ d.val.toNat from hle) hd
  rw [Text.hexValue?] at h
  split at h
  next hc => exact hbound 'f' (by decide) hc.2
  split at h
  next hc => exact hbound 'F' (by decide) hc.2
  next =>
    refine Decidable.of_not_not fun hsmall => ?_
    rw [digitValue?_of_not_isSmall hsmall] at h
    cases h

/-- Four hexadecimal digits are single bytes, whatever follows them. -/
theorem exists_of_scanHex {s rest : List Char} {n : Nat} (h : scanHex s = some (n, rest)) :
    ∃ a b c d, s = a :: b :: c :: d :: rest ∧ (∀ t, scanHex (a :: b :: c :: d :: t) = some (n, t)) ∧
      ∀ t, bytewise (a :: b :: c :: d :: t) = a :: b :: c :: d :: bytewise t := by
  unfold scanHex at h
  split at h
  next a b c d rest' =>
    split at h
    next va vb vc vd ha hb hc hd =>
      cases h
      refine ⟨a, b, c, d, rfl, fun t => ?_, fun t => ?_⟩
      · rw [scanHex, ha, hb, hc, hd]
      · rw [bytewise_cons (isSmall_of_hexValue? ha), bytewise_cons (isSmall_of_hexValue? hb),
          bytewise_cons (isSmall_of_hexValue? hc), bytewise_cons (isSmall_of_hexValue? hd)]
    next => cases h
  next => cases h

/-- A text inside a string that is read as one character, and whose bytes are skipped. -/
structure Letter (u : List Char) (c : Char) : Prop where
  scan : ∀ t, scanChar (u ++ t) = some (some c, t)
  skip : ∀ {t lexeme rest}, skipString t = some (lexeme, rest) →
    skipString (bytewise u ++ t) = some (bytewise u ++ lexeme, rest)

theorem letter_of_isPlain {c : Char} (h : IsPlain c) : Letter [c] c := by
  constructor
  · intro t
    rw [List.singleton_append]
    unfold scanChar
    dsimp only
    rw [if_neg h.1, if_neg h.2.1, if_neg h.2.2]
  · intro t lexeme rest ht
    refine skipString_append (fun d hd => ?_) ht
    by_cases hc : IsSmall c
    · rw [bytewise_cons hc, bytewise_nil, List.mem_singleton] at hd
      exact hd ▸ h
    · exact isPlain_of_not_isSmall (not_isSmall_of_mem_bytewise hc hd)

theorem letter_of_escaped? {e c : Char} (h : escaped? e = some c) : Letter ['\\', e] c := by
  have hletter : e ≠ 'u' := by
    rintro rfl
    cases h
  have hsmall : IsSmall e := by
    refine Decidable.of_not_not fun hsmall => ?_
    have hnone : escaped? e = none := by
      unfold escaped?
      split
      -- all letters of escapes are small
      all_goals first
        | exact absurd (by decide) hsmall
        | rfl
    cases hnone.symm.trans h
  constructor
  · intro t
    show scanChar ('\\' :: e :: t) = _
    unfold scanChar
    dsimp only
    rw [if_neg (by decide), if_pos rfl, if_neg hletter, h]
    rfl
  · intro t lexeme rest ht
    rw [bytewise_cons (by decide), bytewise_cons hsmall, bytewise_nil]
    exact skipString_escape hletter (Option.isSome_of_eq_some h) ht

theorem scanChar_unicode {s rest : List Char} {c : Char} (h : scanUnicode s = some (c, rest)) :
    scanChar ('\\' :: 'u' :: s) = some (some c, rest) := by
  unfold scanChar
  dsimp only
  rw [if_neg (by decide), if_pos rfl, if_pos rfl, h]
  rfl

/-- A code unit, or the two of a pair of surrogates. -/
theorem exists_letter_of_scanUnicode {s rest : List Char} {c : Char}
    (h : scanUnicode s = some (c, rest)) :
    ∃ u, s = u ++ rest ∧ Letter ('\\' :: 'u' :: u) c := by
  rw [scanUnicode] at h
  split at h
  next => cases h
  next n after hhex =>
    obtain ⟨w, x, y, z, rfl, hscan, hbytes⟩ := exists_of_scanHex hhex
    split at h
    next => cases h
    next hlow =>
      split at h
      next hhigh =>
        split at h
        next after' =>
          split at h
          next m after'' hhex' =>
            obtain ⟨w', x', y', z', rfl, hscan', hbytes'⟩ := exists_of_scanHex hhex'
            split at h
            next hpair =>
              obtain ⟨rfl, rfl⟩ := Prod.mk.inj (Option.some.inj h)
              refine ⟨[w, x, y, z, '\\', 'u', w', x', y', z'], rfl, fun t => ?_, ?_⟩
              · refine scanChar_unicode ?_
                show scanUnicode (w :: x :: y :: z :: '\\' :: 'u' :: w' :: x' :: y' :: z' :: t) = _
                rw [scanUnicode, hscan]
                dsimp only
                rw [if_neg hlow, if_pos hhigh]
                simp only [hscan']
                rw [if_pos hpair]
              · intro t lexeme rest ht
                rw [bytewise_cons (by decide), bytewise_cons (by decide), hbytes,
                  bytewise_cons (by decide), bytewise_cons (by decide), hbytes', bytewise_nil]
                exact skipString_hex (hscan _) (skipString_hex (hscan' _) ht)
            next => cases h
          next => cases h
        next => cases h
      next hhigh =>
        cases h
        refine ⟨[w, x, y, z], rfl, fun t => ?_, ?_⟩
        · refine scanChar_unicode ?_
          show scanUnicode (w :: x :: y :: z :: t) = _
          rw [scanUnicode, hscan]
          dsimp only
          rw [if_neg hlow, if_neg hhigh]
        · intro t lexeme rest ht
          rw [bytewise_cons (by decide), bytewise_cons (by decide), hbytes, bytewise_nil]
          exact skipString_hex (hscan _) ht

/-- **One character inside a string** is skipped with just its bytes. -/
theorem exists_letter {s rest : List Char} {c : Char} (h : scanChar s = some (some c, rest)) :
    ∃ u, s = u ++ rest ∧ Letter u c := by
  unfold scanChar at h
  split at h
  next => cases h
  next d s =>
    split at h
    next => cases h
    next hquote =>
      split at h
      next hslash =>
        subst hslash
        split at h
        next => cases h
        next e s =>
          split at h
          next hletter =>
            subst hletter
            obtain ⟨⟨c', rest'⟩, hscan, heq⟩ := Option.map_eq_some_iff.mp h
            cases heq
            obtain ⟨u, rfl, hu⟩ := exists_letter_of_scanUnicode hscan
            exact ⟨'\\' :: 'u' :: u, rfl, hu⟩
          next =>
            obtain ⟨c', hescaped, heq⟩ := Option.map_eq_some_iff.mp h
            cases heq
            exact ⟨['\\', e], rfl, letter_of_escaped? hescaped⟩
      next hslash =>
        split at h
        next => cases h
        next hcontrol =>
          cases h
          exact ⟨[c], rfl, letter_of_isPlain ⟨hquote, hslash, hcontrol⟩⟩

theorem skipString_quote (t : List Char) : skipString ('"' :: t) = some ([], t) := by
  rw [skipString, if_pos rfl]

/-- **A string that is read is skipped with just its bytes**, and its text alone is read as the
same. -/
theorem exists_lexeme {s rest text : List Char} (h : scanString s = some (text, rest)) :
    ∃ u, s = u ++ '"' :: rest ∧ (∀ t, scanString (u ++ '"' :: t) = some (text, t)) ∧
      skipString (bytewise s) = some (bytewise u, bytewise rest) := by
  induction s using scanString.induct generalizing text with
  | case1 s hnone =>
    rw [scanString_of_none hnone] at h
    cases h
  | case2 s after hclose =>
    obtain rfl := eq_of_scanChar_close hclose
    rw [scanString_quote] at h
    cases h
    refine ⟨[], rfl, scanString_quote, ?_⟩
    rw [bytewise_cons (by decide), skipString_quote, bytewise_nil]
  | case3 s c after hchar ih =>
    rw [scanString_of_scanChar hchar] at h
    obtain ⟨⟨more, rest'⟩, hmore, heq⟩ := Option.map_eq_some_iff.mp h
    cases heq
    obtain ⟨u, rfl, hscan, hskip⟩ := ih hmore
    obtain ⟨v, rfl, hv⟩ := exists_letter hchar
    refine ⟨v ++ u, (List.append_assoc v u _).symm, fun t => ?_, ?_⟩
    · rw [List.append_assoc, scanString_of_scanChar (hv.scan _), hscan t]
      rfl
    · rw [bytewise_append, hv.skip hskip, bytewise_append]

/-! ### Tokens -/

/-- A token, and the same token in a sketch. -/
inductive Sketches : Token → Token → Prop where
  | mark {token : Token} (h : ∀ text, token ≠ .string text) : Sketches token token
  | string {text lexeme : String} (h : Lexeme.read? lexeme = some text) :
    Sketches (.string text) (.string lexeme)

theorem sketch_of_ne {c : Char} (hc : c ≠ '"') (s : List Char) :
    sketch (c :: s) = scan (c :: s) := by
  unfold sketch
  split
  next heq => exact absurd (List.cons.inj heq).1 hc
  next => rfl

/-- A string whose text alone is legible is legible as it is written. -/
theorem read?_bytewise {u text : List Char} (h : scanString (u ++ ['"']) = some (text, [])) :
    Lexeme.read? (String.ofList (bytewise u)) = some (String.ofList text) := by
  rw [Lexeme.read?, String.toList_ofList, bytes_bytewise, decode?_encode, Option.bind_eq_bind,
    Option.bind_some, h]

/-- **A token of a text is found in its bytes**, where a string is as it is written. -/
theorem exists_sketch {s rest : List Char} {token : Token} (h : scan s = some (token, rest)) :
    ∃ token', sketch (bytewise s) = some (token', bytewise rest) ∧ Sketches token token' := by
  unfold scan at h
  split at h
  -- the marks and the three names are small, so their bytes are themselves
  iterate 9
    · cases h
      refine ⟨_, ?_, .mark nofun⟩
      simp (disch := decide) only [bytewise_cons]
      rfl
  · obtain ⟨⟨text, rest'⟩, hscan, heq⟩ := Option.map_eq_some_iff.mp h
    cases heq
    obtain ⟨u, rfl, hread, hskip⟩ := exists_lexeme hscan
    refine ⟨_, ?_, .string (read?_bytewise (hread []))⟩
    rw [bytewise_cons (by decide)]
    show (skipString _).map _ = _
    rw [hskip]
    rfl
  · split at h
    next => cases h
    next l rest' hliteral =>
      cases h
      obtain ⟨c, s', rfl, hc⟩ := Numeral.exists_eq_cons_of_scanLiteral hliteral
      have hsmall : IsSmall c := by
        obtain rfl | hdigit := hc
        · decide
        · exact Nat.lt_of_le_of_lt (Text.isDigit_iff.mp hdigit).2 (by decide)
      have hquote : c ≠ '"' := by
        rintro rfl
        exact absurd hc (by decide)
      have hbytes := scanLiteral_bytewise hliteral
      rw [bytewise_cons hsmall] at hbytes ⊢
      refine ⟨_, ?_, .mark nofun⟩
      rw [sketch_of_ne hquote, Numeral.scan_of_scanLiteral hc hbytes]

end QueueDrain.Json.Token
