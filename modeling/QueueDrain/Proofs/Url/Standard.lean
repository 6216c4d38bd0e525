import Mathlib.Tactic.ByContra
import QueueDrain.Proofs.Text.Blank
import QueueDrain.Proofs.Text.Integer
import QueueDrain.Proofs.Url.Targets
import QueueDrain.Url.Standard

/-!
The readers of addresses that come with the program keep to the rules.

The strict reader finds the same scheme, the same authority and the same faults whether or not the
path of an endpoint follows, one stage after the other: `isRequestAddress_of_scheme`,
`span_authority_append`, `isPathAndQuery_append`.  The lenient one finds no scheme where the first
character is a slash.
-/

namespace QueueDrain.Url

variable {path : List Char}

/-- Up to the first character outside a class, if there is one, a text is inside the class. -/
theorem exists_cut (p : Char → Bool) (s : List Char) :
    (∀ c ∈ s, p c) ∨
      ∃ before c rest, s = before ++ c :: rest ∧ (∀ a ∈ before, p a) ∧ p c = false := by
  induction s with
  | nil => simp
  | cons c s ih =>
    by_cases hc : p c
    · obtain hall | ⟨before, c', rest, rfl, hbefore, hc'⟩ := ih
      · left
        simpa [hc] using hall
      · right
        refine ⟨c :: before, c', rest, rfl, ?_, hc'⟩
        simpa [hc] using hbefore
    · right
      exact ⟨[], c, s, rfl, by simp, by simpa using hc⟩

/-! ### Paths and queries -/

/-- Whether a character belongs to a path, and begins neither a query nor a fragment. -/
def inPath (c : Char) : Bool := c != '?' && c != '#'

theorem isPlainChar_cases {c : Char} (h : isPlainChar c) :
    isLetter c ∨ c.isDigit ∨ c ∈ "-._~!$&'()*+,;=:@/?".toList := by
  simpa [isPlainChar, or_assoc] using h

theorem isQueryChar_of_isPlainChar {c : Char} (h : isPlainChar c) : isQueryChar c := by
  rcases isPlainChar_cases h with hletter | hdigit | hmark
  · have hlow : '?' ≤ c := by
      simp only [isLetter, Bool.or_eq_true, Bool.and_eq_true, decide_eq_true_eq] at hletter
      rcases hletter with ⟨hlow, -⟩ | ⟨hlow, -⟩
      · exact Char.le_trans (by decide : '?' ≤ 'a') hlow
      · exact Char.le_trans (by decide : '?' ≤ 'A') hlow
    simp [isQueryChar, hlow]
  · have hrange : '0' ≤ c ∧ c ≤ '9' := Text.isDigit_iff.mp hdigit
    have hlow : '$' ≤ c := Char.le_trans (by decide : '$' ≤ '0') hrange.1
    have hhigh : c ≤ ';' := Char.le_trans hrange.2 (by decide : '9' ≤ ';')
    simp [isQueryChar, hlow, hhigh]
  · exact List.all_eq_true.mp (by decide : "-._~!$&'()*+,;=:@/?".toList.all isQueryChar) c hmark

/-- A question mark begins a query, and all else that is plain belongs to a path. -/
theorem eq_or_inPath_of_isPlainChar {c : Char} (h : isPlainChar c) :
    c = '?' ∨ inPath c ∧ isPathChar c := by
  -- letters and digits are in ranges of characters that paths are made of
  have hrange : ∀ low high : Char, low ≤ c → c ≤ high →
      (¬ (low ≤ '?' ∧ '?' ≤ high) ∧ ¬ (low ≤ '#' ∧ '#' ≤ high)) → isPathChar c →
      inPath c ∧ isPathChar c := by
    rintro low high hlow hhigh ⟨hmark, hsign⟩ hread
    refine ⟨?_, hread⟩
    rw [inPath, Bool.and_eq_true, bne_iff_ne, bne_iff_ne]
    constructor
    · rintro rfl
      exact hmark ⟨hlow, hhigh⟩
    · rintro rfl
      exact hsign ⟨hlow, hhigh⟩
  rcases isPlainChar_cases h with hletter | hdigit | hmark
  · simp only [isLetter, Bool.or_eq_true, Bool.and_eq_true, decide_eq_true_eq] at hletter
    rcases hletter with ⟨hlow, hhigh⟩ | ⟨hlow, hhigh⟩
    · exact Or.inr (hrange 'a' 'z' hlow hhigh (by decide) (by simp [isPathChar, hlow, hhigh]))
    · have hlow' : '@' ≤ c := Char.le_trans (by decide : '@' ≤ 'A') hlow
      have hhigh' : c ≤ '_' := Char.le_trans hhigh (by decide : 'Z' ≤ '_')
      exact Or.inr (hrange 'A' 'Z' hlow hhigh (by decide) (by simp [isPathChar, hlow', hhigh']))
  · obtain ⟨hlow, hhigh⟩ : '0' ≤ c ∧ c ≤ '9' := Text.isDigit_iff.mp hdigit
    have hlow' : '$' ≤ c := Char.le_trans (by decide : '$' ≤ '0') hlow
    have hhigh' : c ≤ ';' := Char.le_trans hhigh (by decide : '9' ≤ ';')
    exact Or.inr (hrange '0' '9' hlow hhigh (by decide) (by simp [isPathChar, hlow', hhigh']))
  · have hall : "-._~!$&'()*+,;=:@/?".toList.all fun a => a == '?' || inPath a && isPathChar a := by
      decide
    simpa using List.all_eq_true.mp hall c hmark

theorem isPathAndQuery_eq (s : List Char) :
    isPathAndQuery s = match s.span inPath with
      | (path, '?' :: query) => path.all isPathChar && (query.takeWhile (· != '#')).all isQueryChar
      | (path, _) => path.all isPathChar := rfl

/-- Before the first mark the characters are those of a path. -/
theorem isPathAndQuery_append_of_inPath {s : List Char} (h : ∀ c ∈ s, inPath c)
    (t : List Char) : isPathAndQuery (s ++ t) = (s.all isPathChar && isPathAndQuery t) := by
  obtain hall | ⟨before, c, rest, rfl, hbefore, hc⟩ := exists_cut inPath t
  · have hboth : ∀ c ∈ s ++ t, inPath c := by
      intro c hmem
      exact (List.mem_append.mp hmem).elim (h c) (hall c)
    rw [isPathAndQuery_eq, isPathAndQuery_eq, Text.span_of_all hboth, Text.span_of_all hall]
    exact List.all_append
  · have hboth : ∀ c ∈ s ++ before, inPath c := by
      intro c hmem
      exact (List.mem_append.mp hmem).elim (h c) (hbefore c)
    rw [isPathAndQuery_eq, isPathAndQuery_eq, ← List.append_assoc, Text.span_append_cons hboth hc,
      Text.span_append_cons hbefore hc]
    by_cases hquery : c = '?'
    · subst hquery
      simp [Bool.and_assoc]
    · simp [hquery]

/-- The characters of an endpoint make a path, perhaps with a query. -/
theorem isPathAndQuery_of_plain {s : List Char} (h : ∀ c ∈ s, isPlainChar c) :
    isPathAndQuery s := by
  have hpath : ∀ before : List Char, (∀ c ∈ before, isPlainChar c) → (∀ c ∈ before, inPath c) →
      before.all isPathChar := by
    intro before hbefore hin
    rw [List.all_eq_true]
    intro c hc
    obtain rfl | ⟨-, hread⟩ := eq_or_inPath_of_isPlainChar (hbefore c hc)
    · exact absurd (hin '?' hc) (by decide)
    · exact hread
  obtain hall | ⟨before, c, rest, rfl, hbefore, hc⟩ := exists_cut inPath s
  · rw [isPathAndQuery_eq, Text.span_of_all hall]
    exact hpath s h hall
  · obtain ⟨hfront, hmark, hrest⟩ : (∀ a ∈ before, isPlainChar a) ∧ isPlainChar c ∧
        ∀ a ∈ rest, isPlainChar a := by
      rwa [List.forall_mem_append, List.forall_mem_cons] at h
    obtain rfl | ⟨hin, -⟩ := eq_or_inPath_of_isPlainChar hmark
    · rw [isPathAndQuery_eq, Text.span_append_cons hbefore hc]
      refine Bool.and_eq_true_iff.mpr ⟨hpath before hfront hbefore, ?_⟩
      refine List.all_eq_true.mpr fun a ha => ?_
      exact isQueryChar_of_isPlainChar (hrest a (List.takeWhile_subset _ ha))
    · rw [hc] at hin
      cases hin

theorem all_takeWhile_append {p r : Char → Bool} {t : List Char} (ht : ∀ c ∈ t, r c)
    (s : List Char) : ((s ++ t).takeWhile p).all r = (s.takeWhile p).all r := by
  induction s with
  | nil =>
    simp only [List.nil_append, List.takeWhile_nil, List.all_nil, List.all_eq_true]
    intro c hc
    exact ht c (List.takeWhile_subset _ hc)
  | cons c s ih =>
    by_cases hc : p c
    · simp [hc, ih]
    · simp [hc]

/-- **A path and a query** stay what they are when the path of an endpoint follows. -/
theorem isPathAndQuery_append (h : IsEndpoint path) (s : List Char) :
    isPathAndQuery (s ++ path) = isPathAndQuery s := by
  obtain hall | ⟨before, c, rest, rfl, hbefore, hc⟩ := exists_cut inPath s
  · have hself := isPathAndQuery_append_of_inPath hall []
    rw [List.append_nil] at hself
    rw [isPathAndQuery_append_of_inPath hall, isPathAndQuery_of_plain h.plain, hself]
    rfl
  · -- the path goes on with the query, or it is part of the fragment, which is not looked at
    rw [List.append_assoc, isPathAndQuery_append_of_inPath hbefore,
      isPathAndQuery_append_of_inPath hbefore, List.cons_append]
    congr 1
    have hmark : c = '?' ∨ c = '#' := by
      by_contra hnone
      simp_all [inPath]
    obtain rfl | rfl := hmark
    · simpa [isPathAndQuery_eq, inPath, List.span_eq_takeWhile_dropWhile] using
        all_takeWhile_append (fun c hc => isQueryChar_of_isPlainChar (h.plain c hc)) rest
    · simp [isPathAndQuery_eq, inPath, List.span_eq_takeWhile_dropWhile]

/-! ### Schemes and authorities -/

theorem scanScheme_of_all {s : List Char} (h : ∀ c ∈ s, isSchemeChar c) :
    scanScheme s = .missing := by
  rw [scanScheme, Text.span_of_all h]

theorem scanScheme_cut {name rest : List Char} {c : Char} (hname : ∀ a ∈ name, isSchemeChar a)
    (hc : isSchemeChar c = false) :
    scanScheme (name ++ c :: rest) = match c :: rest with
      | ':' :: '/' :: '/' :: rest =>
        if schemeLimit < name.length then .tooLong else .found rest
      | _ => .missing := by
  rw [scanScheme, Text.span_append_cons hname hc]
  split <;> simp_all

/-- Where no scheme is missing, it is spelled out. -/
theorem spellsScheme_of_scanScheme {s : List Char} (h : scanScheme s ≠ .missing) :
    SpellsScheme s := by
  obtain hall | ⟨name, c, rest, rfl, hname, hc⟩ := exists_cut isSchemeChar s
  · exact absurd (scanScheme_of_all hall) h
  · rw [scanScheme_cut hname hc] at h
    split at h
    · rename_i rest heq
      exact ⟨name, rest, by rw [heq, List.append_assoc]; rfl, hname⟩
    · exact absurd rfl h

/-- **The authority** stays what it is, for the path begins with a slash. -/
theorem span_authority_append (h : IsEndpoint path) (s : List Char) :
    (s ++ path).span (!endsRequestAuthority ·) =
      ((s.span (!endsRequestAuthority ·)).1, (s.span (!endsRequestAuthority ·)).2 ++ path) := by
  obtain ⟨c, rest, rfl, -⟩ := h.start
  obtain hall | ⟨before, d, tail, rfl, hbefore, hd⟩ := exists_cut (!endsRequestAuthority ·) s
  · rw [Text.span_append_cons hall (by decide), Text.span_of_all hall]
    rfl
  · rw [List.append_assoc, List.cons_append, Text.span_append_cons hbefore hd,
      Text.span_append_cons hbefore hd]
    rfl

/-! ### Targets -/

/-- What follows the scheme of a target: an authority, and a path, perhaps with a query. -/
def isPlaced (rest : List Char) : Bool :=
  (rest.span (!endsRequestAuthority ·)).1 ≠ [] &&
    isAuthority (rest.span (!endsRequestAuthority ·)).1 &&
    isPathAndQuery (rest.span (!endsRequestAuthority ·)).2

theorem isPlaced_append (h : IsEndpoint path) (rest : List Char) :
    isPlaced (rest ++ path) = isPlaced rest := by
  rw [isPlaced, span_authority_append h, isPathAndQuery_append h]
  rfl

theorem isRequestAddress_cons {c : Char} {s : List Char} (hslash : c ≠ '/')
    (hstar : c :: s ≠ ['*']) :
    isRequestAddress (c :: s) = (decide (byteLength (c :: s) ≤ requestLimit) &&
      match scanScheme (c :: s) with
      | .tooLong => false
      | .missing => (c :: s).all (!endsRequestAuthority ·) && isAuthority (c :: s)
      | .found rest => isPlaced rest) := by
  rw [isRequestAddress]
  · rfl
  · simp
  · exact hstar
  · simp [hslash]

/-- **An address with a scheme** is told by its length, its scheme and what follows. -/
theorem isRequestAddress_of_scheme {name : List Char} (hname : ∀ c ∈ name, isSchemeChar c)
    (rest : List Char) :
    isRequestAddress (name ++ [':', '/', '/'] ++ rest) =
      (decide (byteLength (name ++ [':', '/', '/'] ++ rest) ≤ requestLimit) &&
        (decide (name.length ≤ schemeLimit) && isPlaced rest)) := by
  have hscan : scanScheme (name ++ [':', '/', '/'] ++ rest) =
      if schemeLimit < name.length then .tooLong else .found rest := by
    rw [List.append_assoc]
    exact scanScheme_cut hname (by decide)
  obtain ⟨c, s, hs, hslash, hstar⟩ : ∃ c s, name ++ [':', '/', '/'] ++ rest = c :: s ∧ c ≠ '/' ∧
      c :: s ≠ ['*'] := by
    match name with
    | [] => exact ⟨':', _, rfl, by decide, by simp⟩
    | c :: name =>
      refine ⟨c, name ++ [':', '/', '/'] ++ rest, by simp, ?_, by simp⟩
      rintro rfl
      exact absurd (hname '/' List.mem_cons_self) (by decide)
  rw [hs, isRequestAddress_cons hslash hstar, ← hs, hscan]
  by_cases hlong : schemeLimit < name.length
  · rw [if_pos hlong, decide_eq_false (Nat.not_le_of_lt hlong)]
    rfl
  · rw [if_neg hlong, decide_eq_true (Nat.le_of_not_lt hlong), Bool.true_and]

theorem byteLength_toList (s : String) : byteLength s.toList = s.utf8ByteSize := by
  rw [byteLength, String.ofList_toList]

theorem standard_readsTargets : standard.ReadsTargets where
  length_le s h := by
    have htarget : isRequestAddress s.toList := h
    rw [← byteLength_toList]
    exact of_decide_eq_true (Bool.and_eq_true_iff.mp htarget).1
  host s h hhead hspells := by
    have htarget : isRequestAddress s.toList := h
    intro hslash
    match hs : s.toList with
    | [] =>
      rw [hs] at hslash
      exact absurd hslash List.not_mem_nil
    | c :: rest =>
      rw [hs] at htarget hhead hspells hslash
      have hstar : c :: rest ≠ ['*'] := by
        intro heq
        rw [heq] at hslash
        exact absurd hslash (by decide)
      have hmissing : scanScheme (c :: rest) = .missing := by
        by_contra hscan
        exact hspells (spellsScheme_of_scanScheme hscan)
      rw [isRequestAddress_cons (by simpa using hhead) hstar, hmissing] at htarget
      simp only [Bool.and_eq_true, List.all_eq_true] at htarget
      exact absurd (htarget.2.1 '/' hslash) (by decide)
  extend s path h hspells hpath hroom := by
    obtain ⟨name, rest, hs, hname⟩ := hspells
    have htarget : isRequestAddress s.toList := h
    show isRequestAddress (s ++ path).toList
    have hlength := byteLength_toList (s ++ path)
    rw [String.toList_append, hs, List.append_assoc _ rest] at hlength ⊢
    rw [hs, isRequestAddress_of_scheme hname, Bool.and_eq_true] at htarget
    rw [isRequestAddress_of_scheme hname, isPlaced_append hpath, htarget.2, hlength,
      decide_eq_true hroom]
    rfl
  restrict s path h hspells hpath := by
    obtain ⟨name, rest, hs, hname⟩ := hspells
    have htarget : isRequestAddress (s ++ path).toList := h
    show isRequestAddress s.toList
    have hlength : byteLength s.toList ≤ byteLength (s ++ path).toList := by
      rw [byteLength_toList, byteLength_toList, String.utf8ByteSize_append]
      exact Nat.le_add_right _ _
    rw [String.toList_append, hs, List.append_assoc _ rest] at htarget hlength
    rw [isRequestAddress_of_scheme hname, isPlaced_append hpath, Bool.and_eq_true,
      decide_eq_true_iff] at htarget
    rw [hs, isRequestAddress_of_scheme hname, htarget.2,
      decide_eq_true (Nat.le_trans hlength htarget.1)]
    rfl

/-! ### Absolute addresses -/

theorem standard_readsAbsolute : standard.ReadsAbsolute where
  empty := by decide
  relative s hslash := by
    obtain ⟨rest, hs⟩ : ∃ rest, s.toList = '/' :: rest := List.head?_eq_some_iff.mp hslash
    obtain ⟨core, hcore⟩ :=
      Text.exists_trimEndWhere_cons (p := (· ≤ ' ')) (c := '/') (by decide) rest
    have hstrip : strip ('/' :: rest) = '/' :: core.filter fun c =>
        c != '\t' && c != '\n' && c != '\r' := by
      rw [strip, List.dropWhile_cons_of_neg (by decide), hcore]
      rfl
    have hscheme : scheme? (strip ('/' :: rest)) = none := by
      rw [hstrip]
      rfl
    show (webScheme? s.toList).map String.ofList = none
    rw [hs, webScheme?, hscheme]
    rfl

end QueueDrain.Url
