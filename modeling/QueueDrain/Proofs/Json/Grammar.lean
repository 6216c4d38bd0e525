import QueueDrain.Proofs.Json.Documents

/-!
What texts spell.

A text spells a document if it consists of the tokens of the document, with blanks between them
(`Cut`).  These are the texts that the reader accepts (`parseRaw?_eq_some_iff`), and the bytes that
spell a document are those of such texts (`Spells`).

Design notes: one direction is that documents are read back (`ofTokens?_tokens`).  For the other
one, the tokens that the reader has taken so far are at any moment those of what it keeps
(`Reading.Took`), so there is nothing else that it can have taken at the end.
-/

namespace QueueDrain.Json

/-! ### From texts to tokens -/

/-- A text consists of tokens, with blanks between them. -/
inductive Cut : List Char → List Token → Prop where
  | nil : Cut [] []
  | space {c : Char} {s : List Char} {tokens : List Token} (blank : Token.isSpace c = true)
    (more : Cut s tokens) : Cut (c :: s) tokens
  | token {s rest : List Char} {token : Token} {tokens : List Token}
    (scan : Token.scan s = some (token, rest)) (more : Cut rest tokens) : Cut s (token :: tokens)

namespace Token

theorem length_scanDigits (s : List Char) :
    (scanDigits s).1.length + (scanDigits s).2.length = s.length := by
  induction s with
  | nil => rfl
  | cons c s ih =>
    rw [scanDigits]
    cases Text.digitValue? c with
    | none => exact Nat.zero_add _
    | some d =>
      simp only [List.length_cons]
      omega

theorem length_of_scanDigits_eq {s rest : List Char} {ds : List Nat}
    (h : scanDigits s = (ds, rest)) : ds.length + rest.length = s.length := by
  have hlength := length_scanDigits s
  rwa [h] at hlength

theorem length_scanFraction {s rest : List Char} {fraction : Option (List Nat)}
    (h : scanFraction s = some (fraction, rest)) : rest.length ≤ s.length := by
  cases Numeral.fraction_of_scanFraction h with
  | point hdigits =>
    have hlength := length_of_scanDigits_eq hdigits
    rw [List.length_cons]
    omega
  | none => exact Nat.le_refl _

theorem length_scanExponent {s rest : List Char} {exponent : Option Int}
    (h : scanExponent s = some (exponent, rest)) : rest.length ≤ s.length := by
  cases Numeral.exponent_of_scanExponent h with
  | @letter c s t _ _ _ _ _ hsigned hdigits =>
    have hle : t.length ≤ s.length := by
      cases hsigned with
      | minus => exact Nat.le_succ _
      | plus => exact Nat.le_succ _
      | plain => exact Nat.le_refl _
    have hlength := length_of_scanDigits_eq hdigits
    rw [List.length_cons]
    omega
  | none => exact Nat.le_refl _

theorem length_scanLiteral {s rest : List Char} {l : Literal}
    (h : scanLiteral s = some (l, rest)) : rest.length < s.length := by
  obtain ⟨t, after, after', d, ds, hunsigned, hdigits, -, hfraction, hexponent, -⟩ :=
    Numeral.exists_parts h
  have hle : t.length ≤ s.length := by
    generalize l.negative = negative at hunsigned
    cases hunsigned with
    | minus => exact Nat.le_succ _
    | plain => exact Nat.le_refl _
  have hwhole := length_of_scanDigits_eq hdigits
  have hafter := length_scanFraction hfraction
  have hrest := length_scanExponent hexponent
  rw [List.length_cons] at hwhole
  omega

theorem length_scanString {s rest text : List Char} (h : scanString s = some (text, rest)) :
    rest.length < s.length := by
  induction s using scanString.induct generalizing text with
  | case1 s hnone =>
    rw [scanString_of_none hnone] at h
    cases h
  | case2 s after hclose =>
    obtain rfl := eq_of_scanChar_close hclose
    rw [scanString_quote] at h
    cases h
    exact Nat.lt_succ_self _
  | case3 s c after hchar ih =>
    rw [scanString_of_scanChar hchar] at h
    obtain ⟨⟨more, rest'⟩, hmore, heq⟩ := Option.map_eq_some_iff.mp h
    cases heq
    exact Nat.lt_trans (ih hmore) (length_scanChar hchar)

/-- A token takes at least one character. -/
theorem length_scan {s rest : List Char} {token : Token} (h : scan s = some (token, rest)) :
    rest.length < s.length := by
  unfold scan at h
  split at h
  iterate 9
    · cases h
      simp only [List.length_cons]
      omega
  · obtain ⟨⟨text, rest'⟩, hscan, heq⟩ := Option.map_eq_some_iff.mp h
    cases heq
    exact Nat.lt_succ_of_lt (length_scanString hscan)
  · split at h
    next => cases h
    next l rest' hliteral =>
      cases h
      exact length_scanLiteral hliteral

end Token

theorem Cut.tokensWithin {s : List Char} {tokens : List Token} (h : Cut s tokens) {fuel : Nat}
    (hfuel : s.length ≤ fuel) : tokensWithin Token.scan fuel s = some tokens := by
  induction h generalizing fuel with
  | nil => cases fuel <;> rfl
  | space blank more ih =>
    rw [List.length_cons] at hfuel
    obtain ⟨fuel, rfl⟩ : ∃ k, fuel = k + 1 := ⟨fuel - 1, by omega⟩
    rw [tokensWithin_of_space blank]
    exact ih (by omega)
  | @token s rest token tokens hscan more ih =>
    have hlength := Token.length_scan hscan
    obtain ⟨fuel, rfl⟩ : ∃ k, fuel = k + 1 := ⟨fuel - 1, by omega⟩
    cases s with
    | nil => exact absurd hlength (Nat.not_lt_zero _)
    | cons c s =>
      have hspace : ¬Token.isSpace c = true := by
        intro hspace
        rw [scan_space hspace] at hscan
        cases hscan
      rw [List.length_cons] at hlength hfuel
      exact tokensWithin_of_token hspace hscan (ih (by omega))

theorem cut_of_tokensWithin {fuel : Nat} {s : List Char} {tokens : List Token}
    (h : tokensWithin Token.scan fuel s = some tokens) : Cut s tokens := by
  induction fuel generalizing s tokens with
  | zero =>
    cases s with
    | nil =>
      cases h
      exact .nil
    | cons c s => cases h
  | succ fuel ih =>
    cases s with
    | nil =>
      cases h
      exact .nil
    | cons c s =>
      by_cases hspace : Token.isSpace c = true
      · rw [tokensWithin_of_space hspace] at h
        exact .space hspace (ih h)
      · obtain ⟨token, rest, more, hscan, hmore, rfl⟩ := exists_of_tokensWithin hspace h
        exact .token hscan (ih hmore)

theorem Cut.tokens? {s : List Char} {tokens : List Token} (h : Cut s tokens) :
    tokens? s = some tokens :=
  h.tokensWithin (Nat.le_refl _)

/-- **The tokens of a text are those that it consists of.** -/
theorem tokens?_eq_some_iff {s : List Char} {tokens : List Token} :
    tokens? s = some tokens ↔ Cut s tokens :=
  ⟨cut_of_tokensWithin, Cut.tokens?⟩

/-! ### From tokens to documents -/

theorem itemTokens_concat {items : List Json} (h : items ≠ []) (v : Json) :
    itemTokens (items ++ [v]) = itemTokens items ++ .comma :: v.tokens := by
  induction items with
  | nil => exact absurd rfl h
  | cons w items ih =>
    rcases items with _ | ⟨u, items⟩
    · rfl
    · rw [List.cons_append, List.cons_append, itemTokens, itemTokens, ← List.cons_append,
        ih (List.cons_ne_nil _ _), List.append_assoc, List.cons_append]

theorem fieldTokens_concat {fields : Fields} (h : fields ≠ []) (key : String) (v : Json) :
    fieldTokens (fields ++ [(key, v)]) =
      fieldTokens fields ++ .comma :: .string key :: .colon :: v.tokens := by
  induction fields with
  | nil => exact absurd rfl h
  | cons field fields ih =>
    obtain ⟨k, w⟩ := field
    rcases fields with _ | ⟨f, fields⟩
    · rfl
    · have hmore := ih (List.cons_ne_nil _ _)
      rw [List.cons_append] at hmore
      rw [List.cons_append, List.cons_append, fieldTokens, fieldTokens, hmore]
      simp only [List.cons_append, List.append_assoc]

/-- The tokens of an array before its next item; its items so far are given last one first. -/
def openItems : List Json → List Token
  | [] => [.openArray]
  | items => .openArray :: (itemTokens items.reverse ++ [.comma])

/-- The tokens of an object before its next field; its fields so far are given last one first. -/
def openFields : List (String × Json) → List Token
  | [] => [.openObject]
  | fields => .openObject :: (fieldTokens fields.reverse ++ [.comma])

theorem openItems_of_ne_nil {items : List Json} (h : items ≠ []) :
    openItems items = .openArray :: (itemTokens items.reverse ++ [.comma]) := by
  rcases items with _ | ⟨v, items⟩
  · exact absurd rfl h
  · rfl

theorem openFields_of_ne_nil {fields : Fields} (h : fields ≠ []) :
    openFields fields = .openObject :: (fieldTokens fields.reverse ++ [.comma]) := by
  rcases fields with _ | ⟨f, fields⟩
  · exact absurd rfl h
  · rfl

theorem openItems_append (items : List Json) (v : Json) :
    openItems items ++ v.tokens = .openArray :: itemTokens (v :: items).reverse := by
  rcases items with _ | ⟨w, items⟩
  · rfl
  · rw [openItems_of_ne_nil (List.cons_ne_nil w items), List.reverse_cons (a := v),
      itemTokens_concat (by simp)]
    simp only [List.cons_append, List.append_assoc, List.nil_append]

theorem openFields_append (fields : Fields) (key : String) (v : Json) :
    openFields fields ++ .string key :: .colon :: v.tokens =
      .openObject :: fieldTokens ((key, v) :: fields).reverse := by
  rcases fields with _ | ⟨f, fields⟩
  · rfl
  · rw [openFields_of_ne_nil (List.cons_ne_nil f fields), List.reverse_cons (a := (key, v)),
      fieldTokens_concat (by simp)]
    simp only [List.cons_append, List.append_assoc, List.nil_append]

/-- The tokens that have been taken since a frame was opened. -/
inductive Frame.Took : Frame → List Token → Prop where
  | arrayStart : Took (.array [] .start) (openItems [])
  | arrayComma (items : List Json) : Took (.array items .afterComma) (openItems items)
  | arrayValue {items : List Json} (h : items ≠ []) :
    Took (.array items .afterValue) (.openArray :: itemTokens items.reverse)
  | objectStart : Took (.object [] .start) (openFields [])
  | objectComma (fields : Fields) : Took (.object fields .afterComma) (openFields fields)
  | objectValue {fields : Fields} (h : fields ≠ []) :
    Took (.object fields .afterValue) (.openObject :: fieldTokens fields.reverse)
  | key (fields : Fields) (key : String) :
    Took (.key fields key) (openFields fields ++ [.string key])
  | value (fields : Fields) (key : String) :
    Took (.value fields key) (openFields fields ++ [.string key, .colon])

/-- The tokens that have been taken before the innermost frame was opened. -/
inductive OuterTook : List Frame → List Token → Prop where
  | nil : OuterTook [] []
  | cons {frame : Frame} {outer : List Frame} {tokens before : List Token}
    (hframe : frame.Took tokens) (houter : OuterTook outer before) :
    OuterTook (frame :: outer) (before ++ tokens)

namespace Reading

/-- The tokens that a reader has taken. -/
inductive Took : Reading → List Token → Prop where
  | before : Took .before []
  | inside {frame : Frame} {outer : List Frame} {tokens before : List Token}
    (hframe : frame.Took tokens) (houter : OuterTook outer before) :
    Took (.inside frame outer) (before ++ tokens)
  | done (v : Json) : Took (.done v) v.tokens

variable {r next : Reading} {taken : List Token}

theorem Took.put (h : Took r taken) {v : Json} (hnext : r.put v = some next) :
    Took next (taken ++ v.tokens) := by
  cases h with
  | before =>
    cases hnext
    exact .done v
  | done => cases hnext
  | @inside frame outer tokens before hframe houter =>
    rw [List.append_assoc]
    cases hframe with
    | arrayStart =>
      cases hnext
      rw [openItems_append]
      exact .inside (.arrayValue (List.cons_ne_nil _ _)) houter
    | arrayComma items =>
      cases hnext
      rw [openItems_append]
      exact .inside (.arrayValue (List.cons_ne_nil _ _)) houter
    | value fields key =>
      cases hnext
      rw [List.append_assoc]
      show Took _ (before ++ (openFields fields ++ .string key :: .colon :: v.tokens))
      rw [openFields_append]
      exact .inside (.objectValue (List.cons_ne_nil _ _)) houter
    | arrayValue | objectStart | objectComma | objectValue | key => cases hnext

theorem Took.enter (h : Took r taken) {frame : Frame} {tokens : List Token}
    (hframe : frame.Took tokens) (hnext : r.enter frame = some next) :
    Took next (taken ++ tokens) := by
  cases h with
  | before =>
    cases hnext
    exact .inside hframe .nil
  | done => cases hnext
  | inside hcurrent houter =>
    cases hcurrent with
    | arrayStart =>
      cases hnext
      exact .inside hframe (.cons .arrayStart houter)
    | arrayComma items =>
      cases hnext
      exact .inside hframe (.cons (.arrayComma items) houter)
    | value fields key =>
      cases hnext
      exact .inside hframe (.cons (.value fields key) houter)
    | arrayValue | objectStart | objectComma | objectValue | key => cases hnext

theorem took_leave {outer : List Frame} (h : OuterTook outer taken) {v : Json}
    (hnext : leave v outer = some next) : Took next (taken ++ v.tokens) := by
  cases h with
  | nil =>
    cases hnext
    exact .done v
  | cons hframe houter => exact (Took.inside hframe houter).put hnext

/-- **A token that is taken is one of those that have been taken**, and it is the last one. -/
theorem Took.step (h : Took r taken) {token : Token} (hnext : r.step token = some next) :
    Took next (taken ++ [token]) := by
  cases token with
  | openArray => exact h.enter .arrayStart hnext
  | openObject => exact h.enter .objectStart hnext
  | null => exact h.put hnext
  | bool b => exact h.put hnext
  | number n => exact h.put hnext
  | string s =>
    cases h with
    | before => exact Took.before.put (v := .string s) hnext
    | done => cases hnext
    | inside hframe houter =>
      cases hframe with
      | objectStart =>
        cases hnext
        rw [List.append_assoc]
        exact .inside (.key [] s) houter
      | objectComma fields =>
        cases hnext
        rw [List.append_assoc]
        exact .inside (.key fields s) houter
      | arrayStart => exact (Took.inside .arrayStart houter).put (v := .string s) hnext
      | arrayComma items =>
        exact (Took.inside (.arrayComma items) houter).put (v := .string s) hnext
      | value fields key =>
        exact (Took.inside (.value fields key) houter).put (v := .string s) hnext
      | arrayValue | objectValue | key => cases hnext
  | closeArray =>
    cases h with
    | inside hframe houter =>
      rw [List.append_assoc]
      cases hframe with
      | arrayStart => exact took_leave houter (v := .array []) hnext
      | @arrayValue items =>
        have hleave := took_leave houter (v := .array items.reverse) hnext
        rwa [tokens] at hleave
      | arrayComma | objectStart | objectComma | objectValue | key | value => cases hnext
    | before | done => cases hnext
  | closeObject =>
    cases h with
    | inside hframe houter =>
      rw [List.append_assoc]
      cases hframe with
      | objectStart => exact took_leave houter (v := .object []) hnext
      | @objectValue fields =>
        have hleave := took_leave houter (v := .object fields.reverse) hnext
        rwa [tokens] at hleave
      | arrayStart | arrayComma | arrayValue | objectComma | key | value => cases hnext
    | before | done => cases hnext
  | comma =>
    cases h with
    | inside hframe houter =>
      rw [List.append_assoc]
      cases hframe with
      | arrayValue hne =>
        cases hnext
        rw [List.cons_append, ← openItems_of_ne_nil hne]
        exact .inside (.arrayComma _) houter
      | objectValue hne =>
        cases hnext
        rw [List.cons_append, ← openFields_of_ne_nil hne]
        exact .inside (.objectComma _) houter
      | arrayStart | arrayComma | objectStart | objectComma | key | value => cases hnext
    | before | done => cases hnext
  | colon =>
    cases h with
    | inside hframe houter =>
      rw [List.append_assoc]
      cases hframe with
      | key fields key =>
        cases hnext
        rw [List.append_assoc]
        exact .inside (.value fields key) houter
      | arrayStart | arrayComma | arrayValue | objectStart | objectComma | objectValue | value =>
        cases hnext
    | before | done => cases hnext

theorem Took.run (h : Took r taken) {tokens : List Token} (hnext : r.run tokens = some next) :
    Took next (taken ++ tokens) := by
  induction tokens generalizing r taken with
  | nil =>
    cases hnext
    rwa [List.append_nil]
  | cons token tokens ih =>
    rw [Reading.run] at hnext
    obtain ⟨r', hstep, hrun⟩ := Option.bind_eq_some_iff.mp hnext
    have hrest := ih (h.step hstep) hrun
    rwa [List.append_assoc] at hrest

end Reading

/-- **The tokens of a document are the only ones that it is made of.** -/
theorem ofTokens?_eq_some_iff {tokens : List Token} {v : Json} :
    ofTokens? tokens = some v ↔ tokens = v.tokens := by
  constructor
  · intro h
    rw [ofTokens?] at h
    split at h
    next w hdone =>
      cases h
      have htook := Reading.Took.before.run hdone
      rw [List.nil_append] at htook
      cases htook
      rfl
    next => cases h
  · rintro rfl
    exact ofTokens?_tokens v

/-- **The reader accepts the texts that consist of the tokens of a document.** -/
theorem parseRaw?_eq_some_iff {s : List Char} {v : Json} :
    parseRaw? s = some v ↔ Cut s v.tokens := by
  rw [parseRaw?, Option.bind_eq_some_iff]
  constructor
  · rintro ⟨tokens, htokens, hdocument⟩
    rw [ofTokens?_eq_some_iff] at hdocument
    exact hdocument ▸ tokens?_eq_some_iff.mp htokens
  · intro h
    exact ⟨v.tokens, tokens?_eq_some_iff.mpr h, ofTokens?_tokens v⟩

/-- The bytes are a text in UTF-8 that consists of the tokens of a document. -/
def Spells (bytes : List UInt8) (document : Json) : Prop :=
  ∃ s, bytes = Text.Utf8.encode s ∧ Cut s document.tokens

theorem spells_iff {bytes : List UInt8} {document : Json} :
    Spells bytes document ↔
      ∃ s, Text.Utf8.decode? bytes = some s ∧ parseRaw? s = some document := by
  constructor
  · rintro ⟨s, rfl, hcut⟩
    exact ⟨s, Text.Utf8.decode?_encode s, parseRaw?_eq_some_iff.mpr hcut⟩
  · rintro ⟨s, hdecode, hparse⟩
    exact ⟨s, (Text.Utf8.encode_of_decode? hdecode).symm, parseRaw?_eq_some_iff.mp hparse⟩

/-- **Bytes are read as a document that they spell**, if it may be admitted. -/
theorem parseBytes?_eq_some_iff {bytes : List UInt8} {v : Json} :
    parseBytes? bytes = some v ↔
      ∃ document, Spells bytes document ∧ admit? nestingLimit document = some v := by
  simp only [parseBytes?, parse?, Option.bind_eq_some_iff, spells_iff]
  constructor
  · rintro ⟨s, hdecode, document, hparse, hadmitted⟩
    exact ⟨document, ⟨s, hdecode, hparse⟩, hadmitted⟩
  · rintro ⟨document, ⟨s, hdecode, hparse⟩, hadmitted⟩
    exact ⟨s, hdecode, document, hparse, hadmitted⟩

end QueueDrain.Json
