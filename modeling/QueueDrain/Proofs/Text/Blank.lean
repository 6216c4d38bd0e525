import Mathlib.Data.List.Basic
import Mathlib.Data.List.TakeDrop
import Mathlib.Data.List.TakeWhile
import QueueDrain.Text.Blank

/-!
Texts without the characters of a class at one of their ends, and the parts of texts.

A trimmed text is what is left when as many characters as possible have been taken off an end
(`StartTrimmed`, `EndTrimmed`); there is one such text, and it is the one that the library computes.
The first character outside a class cuts a text (`span_append_cons`), and a separator cuts it into
two that are cut on their own (`split_append`).
-/

namespace QueueDrain.Text

variable {p : Char → Bool}

/-- `core` is the text `s` without the characters of a class at its start. -/
def StartTrimmed (p : Char → Bool) (s core : List Char) : Prop :=
  ∃ lead, s = lead ++ core ∧ (∀ c ∈ lead, p c) ∧ ∀ c ∈ core.head?, ¬ p c

/-- `core` is the text `s` without the characters of a class at its end. -/
def EndTrimmed (p : Char → Bool) (s core : List Char) : Prop :=
  ∃ trail, s = core ++ trail ∧ (∀ c ∈ trail, p c) ∧ ∀ c ∈ core.getLast?, ¬ p c

theorem dropWhile_eq_self {s : List Char} (h : ∀ c ∈ s.head?, ¬ p c) : s.dropWhile p = s := by
  rcases s with _ | ⟨c, s⟩
  · rfl
  · exact List.dropWhile_cons_of_neg (h c rfl)

theorem startTrimmed_iff {s core : List Char} : StartTrimmed p s core ↔ core = s.dropWhile p := by
  constructor
  · rintro ⟨lead, rfl, hlead, hcore⟩
    rw [List.dropWhile_append_of_pos hlead, dropWhile_eq_self hcore]
  · rintro rfl
    refine ⟨s.takeWhile p, List.takeWhile_append_dropWhile.symm, ?_, ?_⟩
    · intro c hc
      exact List.all_eq_true.mp List.all_takeWhile c hc
    · intro c hc
      have hnot := List.head?_dropWhile_not p s
      rw [Option.mem_def.mp hc] at hnot
      simpa using hnot

/-- A text is trimmed at its end where its reverse is trimmed at its start. -/
theorem endTrimmed_iff_reverse {s core : List Char} :
    EndTrimmed p s core ↔ StartTrimmed p s.reverse core.reverse := by
  constructor
  · rintro ⟨trail, rfl, htrail, hcore⟩
    refine ⟨trail.reverse, List.reverse_append, ?_, ?_⟩
    · intro c hc
      exact htrail c (List.mem_reverse.mp hc)
    · rw [List.head?_reverse]
      exact hcore
  · rintro ⟨lead, hs, hlead, hcore⟩
    refine ⟨lead.reverse, ?_, ?_, ?_⟩
    · rw [← List.reverse_inj, hs, List.reverse_append, List.reverse_reverse]
    · intro c hc
      exact hlead c (List.mem_reverse.mp hc)
    · rw [List.head?_reverse] at hcore
      exact hcore

theorem endTrimmed_iff {s core : List Char} : EndTrimmed p s core ↔ core = trimEndWhere p s := by
  rw [endTrimmed_iff_reverse, startTrimmed_iff, trimEndWhere, List.reverse_eq_iff]

/-- Taking the characters of a class off an end leaves none of them there. -/
theorem getLast?_trimEndWhere (s : List Char) : ∀ c ∈ (trimEndWhere p s).getLast?, ¬ p c := by
  obtain ⟨-, -, -, hlast⟩ := endTrimmed_iff.mpr (rfl : trimEndWhere p s = _)
  exact hlast

/-- What is trimmed already stays as it is. -/
theorem trimEndWhere_eq_self {s : List Char} (h : ∀ c ∈ s.getLast?, ¬ p c) :
    trimEndWhere p s = s :=
  (endTrimmed_iff.mp ⟨[], (List.append_nil s).symm, by simp, h⟩).symm

/-- Taking characters off the end leaves the first one, unless it is one of them. -/
theorem exists_trimEndWhere_cons {c : Char} (hc : ¬ p c) (s : List Char) :
    ∃ rest, trimEndWhere p (c :: s) = c :: rest := by
  rw [trimEndWhere, List.reverse_cons, List.dropWhile_append]
  split
  · exact ⟨[], by rw [List.dropWhile_cons_of_neg hc]; rfl⟩
  · exact ⟨_, List.reverse_append⟩

theorem trimEndWhere_sublist (s : List Char) : (trimEndWhere p s).Sublist s := by
  rw [trimEndWhere, ← List.reverse_sublist, List.reverse_reverse]
  exact List.dropWhile_sublist p

theorem trim_sublist (s : List Char) : (trim s).Sublist s :=
  (trimEndWhere_sublist _).trans (List.dropWhile_sublist isBlank)

/-- What comes first after the end has been taken off came first before. -/
theorem mem_head?_of_trimEndWhere {s : List Char} {c : Char}
    (h : c ∈ (trimEndWhere p s).head?) : c ∈ s.head? := by
  obtain ⟨trail, hs, -⟩ := endTrimmed_iff.mpr (rfl : trimEndWhere p s = trimEndWhere p s)
  rw [hs, List.head?_append, Option.mem_def.mp h]
  rfl

theorem not_isBlank_head?_trim (s : List Char) : ∀ c ∈ (trim s).head?, ¬ isBlank c := by
  obtain ⟨-, -, -, hhead⟩ :=
    startTrimmed_iff.mpr (rfl : s.dropWhile isBlank = s.dropWhile isBlank)
  exact fun c hc => hhead c (mem_head?_of_trimEndWhere hc)

theorem trim_eq_self {s : List Char} (hhead : ∀ c ∈ s.head?, ¬ isBlank c)
    (hlast : ∀ c ∈ s.getLast?, ¬ isBlank c) : trim s = s := by
  rw [trim, dropWhile_eq_self hhead, trimEndWhere_eq_self hlast]

/-- What does not begin with a character of a class keeps those behind it from being taken off. -/
theorem dropWhile_append_of_head {s t : List Char} (h : ∀ c ∈ t.head?, ¬ p c) :
    (s ++ t).dropWhile p = s.dropWhile p ++ t := by
  rw [List.dropWhile_append]
  split
  · rename_i hempty
    rw [dropWhile_eq_self h, List.isEmpty_iff.mp hempty]
    rfl
  · rfl

theorem trimEndWhere_append_of_all {s t : List Char} (h : ∀ c ∈ t, p c) :
    trimEndWhere p (s ++ t) = trimEndWhere p s := by
  rw [trimEndWhere, List.reverse_append, List.dropWhile_append_of_pos, trimEndWhere]
  exact fun c hc => h c (List.mem_reverse.mp hc)

/-- What is left of a text after its start has been taken off ends as the text does. -/
theorem getLast?_dropWhile {s : List Char} (h : s.dropWhile p ≠ []) :
    (s.dropWhile p).getLast? = s.getLast? := by
  obtain ⟨lead, hs⟩ := List.dropWhile_suffix (l := s) p
  conv => rhs; rw [← hs]
  exact (List.getLast?_append_of_ne_nil lead h).symm

/-! ### Parts -/

/-- A text inside a class is not cut. -/
theorem span_of_all {s : List Char} (h : ∀ c ∈ s, p c) : s.span p = (s, []) := by
  rw [List.span_eq_takeWhile_dropWhile, List.takeWhile_eq_self_iff.mpr h,
    List.dropWhile_eq_nil_iff.mpr h]

/-- A text is cut at the first character outside a class. -/
theorem span_append_cons {s rest : List Char} {c : Char} (hs : ∀ a ∈ s, p a)
    (hc : p c = false) : (s ++ c :: rest).span p = (s, c :: rest) := by
  rw [List.span_eq_takeWhile_dropWhile, List.takeWhile_append_of_pos hs,
    List.dropWhile_append_of_pos hs, List.takeWhile_cons_of_neg (by simp [hc]),
    List.dropWhile_cons_of_neg (by simp [hc]), List.append_nil]

variable {separator : Char}

/-- A text is split as the library splits lists. -/
theorem split_eq_splitOn (s : List Char) : split separator s = s.splitOn separator := by
  induction s with
  | nil => rfl
  | cons c s ih =>
    rw [split, List.splitOn_cons_eq_if_modifyHead]
    by_cases hc : c = separator
    · rw [if_pos hc, if_pos (beq_iff_eq.mpr hc), ih]
    · rw [if_neg hc, if_neg (by simp [hc]), ih]
      rcases hs : s.splitOn separator with _ | ⟨piece, pieces⟩
      · exact absurd hs (List.splitOn_ne_nil _ s)
      · rfl

theorem split_ne_nil (s : List Char) : split separator s ≠ [] := by
  rw [split_eq_splitOn]
  exact List.splitOn_ne_nil _ s

/-- A separator cuts a text into two that are split on their own. -/
theorem split_append (s t : List Char) :
    split separator (s ++ separator :: t) = split separator s ++ split separator t := by
  rw [split_eq_splitOn, split_eq_splitOn, split_eq_splitOn, List.splitOn_append_cons_self]

theorem split_of_not_mem {s : List Char} (h : separator ∉ s) : split separator s = [s] := by
  rw [split_eq_splitOn, List.splitOn_eq_singleton h]

end QueueDrain.Text
