import QueueDrain.Proofs.Text.Blank

/-!
The parts of a comma-separated list, told from the text and not from how it is cut up.

A text is a row of pieces with commas between them and none in them (`Joins`).  A piece is blank, or
it is a part with blanks around it, and the parts are what counts (`Pads`).  Every text has exactly
one list of parts, and it is the one that the library computes (`listParts_eq_iff`).  In the other
direction, whatever blanks and blank pieces are put around parts without commas, those parts are
found again (`listParts_intercalate`).
-/

namespace QueueDrain.Text

variable {separator : Char}

/-! ### Pieces -/

theorem not_mem_of_mem_split {s piece : List Char} (h : piece ∈ split separator s) :
    separator ∉ piece := by
  induction s generalizing piece with
  | nil =>
    rw [split, List.mem_singleton] at h
    subst h
    exact List.not_mem_nil
  | cons c s ih =>
    rw [split] at h
    by_cases hc : c = separator
    · rw [if_pos hc] at h
      rcases List.mem_cons.mp h with rfl | h
      · exact List.not_mem_nil
      · exact ih h
    · rw [if_neg hc] at h
      rcases hs : split separator s with _ | ⟨first, pieces⟩
      · exact absurd hs (split_ne_nil s)
      · rw [hs] at h
        rcases List.mem_cons.mp h with rfl | h
        · have hfirst : separator ∉ first := ih (by rw [hs]; exact List.mem_cons_self)
          rw [List.mem_cons, not_or]
          exact ⟨Ne.symm hc, hfirst⟩
        · exact ih (by rw [hs]; exact List.mem_cons_of_mem _ h)

/-- The pieces of a text: there is a separator between them, and none in them. -/
structure Joins (separator : Char) (s : List Char) (pieces : List (List Char)) : Prop where
  ne_nil : pieces ≠ []
  bare : ∀ piece ∈ pieces, separator ∉ piece
  text : s = [separator].intercalate pieces

theorem joins_iff {s : List Char} {pieces : List (List Char)} :
    Joins separator s pieces ↔ split separator s = pieces := by
  constructor
  · rintro ⟨hne, hbare, rfl⟩
    rw [split_eq_splitOn, List.splitOn_intercalate _ hbare hne]
  · rintro rfl
    refine ⟨split_ne_nil s, fun piece => not_mem_of_mem_split, ?_⟩
    rw [split_eq_splitOn, List.intercalate_splitOn]

/-! ### Blanks around a part -/

/-- There is something in a text, and no blanks at its ends. -/
structure IsPart (s : List Char) : Prop where
  ne_nil : s ≠ []
  head : ∀ c ∈ s.head?, ¬ isBlank c
  last : ∀ c ∈ s.getLast?, ¬ isBlank c

theorem IsPart.of_forall {s : List Char} (hne : s ≠ []) (h : ∀ c ∈ s, ¬ isBlank c) : IsPart s :=
  ⟨hne, fun c hc => h c (List.mem_of_mem_head? hc), fun c hc => h c (List.mem_of_getLast? hc)⟩

theorem trim_of_blank {s : List Char} (h : ∀ c ∈ s, isBlank c) : trim s = [] := by
  have hdrop : s.dropWhile isBlank = [] := List.dropWhile_eq_nil_iff.mpr h
  rw [trim, hdrop]
  rfl

theorem trim_of_isPart {lead part trail : List Char} (h : IsPart part)
    (hlead : ∀ c ∈ lead, isBlank c) (htrail : ∀ c ∈ trail, isBlank c) :
    trim (lead ++ part ++ trail) = part := by
  have hstart : StartTrimmed isBlank (lead ++ part ++ trail) (part ++ trail) := by
    refine ⟨lead, List.append_assoc _ _ _, hlead, ?_⟩
    obtain ⟨c, s, rfl⟩ := List.exists_cons_of_ne_nil h.ne_nil
    exact h.head
  have hend : EndTrimmed isBlank (part ++ trail) part := ⟨trail, rfl, htrail, h.last⟩
  rw [trim, ← startTrimmed_iff.mp hstart, ← endTrimmed_iff.mp hend]

/-- A text is blank, or it is a part with blanks around it. -/
theorem trim_cases (s : List Char) :
    (∀ c ∈ s, isBlank c) ∧ trim s = [] ∨
      IsPart (trim s) ∧ ∃ lead trail, s = lead ++ trim s ++ trail ∧ (∀ c ∈ lead, isBlank c) ∧
        ∀ c ∈ trail, isBlank c := by
  obtain ⟨lead, hs, hlead, hhead⟩ :=
    startTrimmed_iff.mpr (rfl : s.dropWhile isBlank = s.dropWhile isBlank)
  obtain ⟨trail, hcore, htrail, hlast⟩ :=
    endTrimmed_iff.mpr (rfl : trim s = trimEndWhere isBlank (s.dropWhile isBlank))
  have haround : s = lead ++ trim s ++ trail := by rw [List.append_assoc, ← hcore, ← hs]
  by_cases hne : trim s = []
  · rw [hne, List.append_nil] at haround
    refine Or.inl ⟨fun c hc => ?_, hne⟩
    rw [haround] at hc
    exact (List.mem_append.mp hc).elim (hlead c) (htrail c)
  · refine Or.inr ⟨⟨hne, fun c hc => hhead c ?_, hlast⟩, lead, trail, haround, hlead, htrail⟩
    -- what comes first after the blanks at the start is the first character of the part
    rw [hcore, List.head?_append, Option.mem_def.mp hc]
    rfl

/-! ### Parts -/

/-- Pieces, and what stands in them: a piece is blank, or it is a part with blanks around it. -/
inductive Pads : List (List Char) → List (List Char) → Prop where
  | nil : Pads [] []
  | blank {piece : List Char} {pieces parts : List (List Char)} (h : ∀ c ∈ piece, isBlank c)
    (rest : Pads pieces parts) : Pads (piece :: pieces) parts
  | part {lead trail : List Char} {pieces parts : List (List Char)} (part : List Char)
    (lead_blank : ∀ c ∈ lead, isBlank c) (trail_blank : ∀ c ∈ trail, isBlank c)
    (rest : Pads pieces parts) : Pads ((lead ++ part ++ trail) :: pieces) (part :: parts)

/-- Parts with no blanks around them. -/
theorem Pads.refl (parts : List (List Char)) : Pads parts parts := by
  induction parts with
  | nil => exact .nil
  | cons part parts ih =>
    have hblank : ∀ c ∈ ([] : List Char), isBlank c := nofun
    have hpart := Pads.part part hblank hblank ih
    rwa [List.nil_append, List.append_nil] at hpart

theorem Pads.filter_map_trim {pieces parts : List (List Char)} (h : Pads pieces parts)
    (hparts : ∀ part ∈ parts, IsPart part) : (pieces.map trim).filter (· ≠ []) = parts := by
  induction h with
  | nil => rfl
  | blank h _ ih =>
    rw [List.map_cons, trim_of_blank h, List.filter_cons_of_neg (by simp), ih hparts]
  | part part hlead htrail _ ih =>
    obtain ⟨hpart, hparts⟩ := List.forall_mem_cons.mp hparts
    rw [List.map_cons, trim_of_isPart hpart hlead htrail,
      List.filter_cons_of_pos (by simp [hpart.ne_nil]), ih hparts]

theorem pads_filter_map_trim (pieces : List (List Char)) :
    Pads pieces ((pieces.map trim).filter (· ≠ [])) ∧
      ∀ part ∈ (pieces.map trim).filter (· ≠ []), IsPart part := by
  induction pieces with
  | nil => exact ⟨.nil, fun part hpart => absurd hpart List.not_mem_nil⟩
  | cons piece pieces ih =>
    obtain ⟨hpads, hparts⟩ := ih
    rw [List.map_cons]
    rcases trim_cases piece with ⟨hblank, hnil⟩ | ⟨hpart, lead, trail, hpiece, hlead, htrail⟩
    · rw [hnil, List.filter_cons_of_neg (by simp)]
      exact ⟨.blank hblank hpads, hparts⟩
    · rw [List.filter_cons_of_pos (by simp [hpart.ne_nil])]
      refine ⟨?_, List.forall_mem_cons.mpr ⟨hpart, hparts⟩⟩
      have hcons := Pads.part (trim piece) hlead htrail hpads
      rwa [← hpiece] at hcons

/-- A text is a comma-separated list of these parts. -/
def IsListOf (s : List Char) (parts : List (List Char)) : Prop :=
  (∀ part ∈ parts, IsPart part) ∧ ∃ pieces, Joins ',' s pieces ∧ Pads pieces parts

/-- **Every text is a list of exactly the parts that are found in it.** -/
theorem listParts_eq_iff {s : List Char} {parts : List (List Char)} :
    listParts s = parts ↔ IsListOf s parts := by
  constructor
  · rintro rfl
    obtain ⟨hpads, hparts⟩ := pads_filter_map_trim (split ',' s)
    exact ⟨hparts, split ',' s, joins_iff.mpr rfl, hpads⟩
  · rintro ⟨hparts, pieces, hjoins, hpads⟩
    rw [listParts, joins_iff.mp hjoins, hpads.filter_map_trim hparts]

/-- Where parts have no commas, the pieces around them have none. -/
theorem Pads.not_mem {pieces parts : List (List Char)} (h : Pads pieces parts)
    (hparts : ∀ part ∈ parts, ',' ∉ part) : ∀ piece ∈ pieces, ',' ∉ piece := by
  have hblank : ∀ s : List Char, (∀ c ∈ s, isBlank c) → ',' ∉ s :=
    fun s hs hc => absurd (hs ',' hc) (by decide)
  induction h with
  | nil => exact fun piece hpiece => absurd hpiece List.not_mem_nil
  | blank h _ ih => exact List.forall_mem_cons.mpr ⟨hblank _ h, ih hparts⟩
  | part part hlead htrail _ ih =>
    obtain ⟨hpart, hparts⟩ := List.forall_mem_cons.mp hparts
    refine List.forall_mem_cons.mpr ⟨?_, ih hparts⟩
    rw [List.mem_append, List.mem_append, not_or, not_or]
    exact ⟨⟨hblank _ hlead, hpart⟩, hblank _ htrail⟩

theorem Pads.ne_nil {pieces parts : List (List Char)} (h : Pads pieces parts) (hne : parts ≠ []) :
    pieces ≠ [] := by
  cases h with
  | nil => exact hne
  | blank => exact List.cons_ne_nil _ _
  | part => exact List.cons_ne_nil _ _

/-- **Parts without commas are found again**, whatever blanks and blank pieces are put around
them. -/
theorem listParts_intercalate {pieces parts : List (List Char)} (h : Pads pieces parts)
    (hne : parts ≠ []) (hparts : ∀ part ∈ parts, IsPart part ∧ ',' ∉ part) :
    listParts ([','].intercalate pieces) = parts :=
  listParts_eq_iff.mpr ⟨fun part hpart => (hparts part hpart).1, pieces,
    ⟨h.ne_nil hne, h.not_mem fun part hpart => (hparts part hpart).2, rfl⟩, h⟩

end QueueDrain.Text
