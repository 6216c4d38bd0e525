import QueueDrain.Proofs.Plan.Sources
import QueueDrain.Proofs.Text.Parts

/-!
Which texts are lists of sizes, and which sizes they list.

A text is a list of parts between commas, whatever it is, so all that can be wrong with it is that
there is no part, or a part that is no size.  `sizeLists_read` says that the sizes are those that
the parts spell, in order and as often as they occur; that the first part with a fault decides the
refusal; and that the digits of sizes are read as these sizes however they are laid out.

Design notes: the parts of a text (`Text.IsListOf`) and the number that a part spells
(`Text.SpellsInteger`) are told without the code that reads them.
-/

namespace QueueDrain.Plan

/-- A part of a list stands for this size. -/
structure Denotes (part : List Char) (n : Nat) : Prop where
  spells : Text.SpellsInteger part n
  pos : 0 < n
  lt : n < Text.int64Limit

theorem parseItem_eq_ok_iff_denotes {part : List Char} {n : Nat} :
    parseItem part = .ok n ↔ Denotes part n := by
  rw [parseItem_eq_ok_iff]
  exact ⟨fun ⟨hspells, hpos, hlt⟩ => ⟨hspells, hpos, hlt⟩, fun h => ⟨h.spells, h.pos, h.lt⟩⟩

/-- The sizes of a list are those that its parts stand for. -/
theorem parseItemsList_eq_ok_iff {raw : String} {sizes : List Nat} :
    parseItemsList raw = .ok sizes ↔
      sizes ≠ [] ∧ List.Forall₂ Denotes (Text.listParts raw.toList) sizes := by
  simp only [parseItemsList_eq, readList_eq_ok_iff, parseItem_eq_ok_iff_denotes]

/-- A list is refused for the first fault in it. -/
theorem parseItemsList_eq_error_iff {raw : String} {e : Refusal} :
    parseItemsList raw = .error e ↔
      ListFault IsSize SizeFault .noItems (Text.listParts raw.toList) e := by
  rw [parseItemsList_eq]
  exact readList_eq_error_iff parseItem_settles (fun _ _ h => h.not_isSize)
    fun _ _ _ h h' => h.unique h'

/-! ### Lists that are written -/

theorem not_isBlank_of_isDigit {c : Char} (h : c.isDigit) : ¬ Text.isBlank c := by
  obtain ⟨hlo, hhi⟩ := Text.isDigit_iff.mp h
  have hlo : 48 ≤ c.toNat := hlo
  have hhi : c.toNat ≤ 57 := hhi
  -- no range of blanks reaches into the digits
  have hranges : ∀ range ∈ Text.blankRanges, range.2 < 48 ∨ 57 < range.1 := by decide
  rw [Text.isBlank, List.any_eq_true]
  rintro ⟨range, hrange, hin⟩
  rw [Bool.and_eq_true, decide_eq_true_iff, decide_eq_true_iff] at hin
  have hout := hranges range hrange
  omega

/-- The digits of a number stand in a list as a part. -/
theorem isPart_toDigits (n : Nat) : Text.IsPart (Nat.toDigits 10 n) :=
  .of_forall Nat.toDigits_ne_nil fun _ hc =>
    not_isBlank_of_isDigit (Nat.isDigit_of_mem_toDigits (by decide) (by decide) hc)

theorem parseItemsList_intercalate {sizes : List Nat} {pieces : List (List Char)}
    (hne : sizes ≠ []) (hsizes : ∀ n ∈ sizes, 0 < n ∧ n < Text.int64Limit)
    (hpads : Text.Pads pieces (sizes.map fun n => (toString n).toList)) :
    parseItemsList (String.ofList ([','].intercalate pieces)) = .ok sizes := by
  have hparts : ∀ part ∈ sizes.map fun n => (toString n).toList,
      Text.IsPart part ∧ ',' ∉ part := by
    intro part hpart
    obtain ⟨n, -, rfl⟩ := List.mem_map.mp hpart
    rw [Text.toList_toString]
    exact ⟨isPart_toDigits n, Text.not_mem_digits (by decide) n⟩
  rw [parseItemsList_eq_ok_iff, String.toList_ofList,
    Text.listParts_intercalate hpads (by simpa using hne) hparts, List.forall₂_map_left_iff,
    List.forall₂_same]
  refine ⟨hne, fun n hn => ⟨?_, (hsizes n hn).1, (hsizes n hn).2⟩⟩
  rw [Text.toList_toString]
  exact Text.spellsInteger_toDigits n

/-- What a text is read to as a list of sizes. -/
structure Reads (raw : String) : Prop where
  /-- The sizes are those that the parts stand for, and there is one at least. -/
  sizes : ∀ sizes, parseItemsList raw = .ok sizes ↔
    sizes ≠ [] ∧ ∃ parts, Text.IsListOf raw.toList parts ∧ List.Forall₂ Denotes parts sizes
  /-- The refusal is for the first part that is no size, or because there is no part. -/
  refusal : ∀ e, parseItemsList raw = .error e ↔
    ∃ parts, Text.IsListOf raw.toList parts ∧ ListFault IsSize SizeFault .noItems parts e

theorem reads (raw : String) : Reads raw := by
  -- a text is a list of these parts and no others
  have hparts : ∀ p : List (List Char) → Prop,
      (∃ parts, Text.IsListOf raw.toList parts ∧ p parts) ↔ p (Text.listParts raw.toList) := by
    intro p
    simp only [← Text.listParts_eq_iff, exists_eq_left']
  constructor
  · intro sizes
    rw [hparts, parseItemsList_eq_ok_iff]
  · intro e
    rw [hparts, parseItemsList_eq_error_iff]

/-- **A list of sizes is read exactly.**  It is accepted if it has parts and each of them spells a
size, and then it gives these sizes in order; otherwise the first fault from the left decides; and
the digits of sizes with commas between them, and any blanks and blank parts put around them, are
read as these sizes. -/
theorem sizeLists_read :
    (∀ raw, Reads raw) ∧
      ∀ (sizes : List Nat) (pieces : List (List Char)), sizes ≠ [] →
        (∀ n ∈ sizes, 0 < n ∧ n < Text.int64Limit) →
        Text.Pads pieces (sizes.map fun n => (toString n).toList) →
          parseItemsList (String.ofList ([','].intercalate pieces)) = .ok sizes :=
  ⟨reads, fun _ _ hne hsizes hpads => parseItemsList_intercalate hne hsizes hpads⟩

/-- Blanks before a size, a blank part and an empty one, and a size that comes twice. -/
theorem sizeLists_read_padded :
    (∀ n ∈ [250, 100, 250], 0 < n ∧ n < Text.int64Limit) ∧
      parseItemsList " 250, ,100,250," = .ok [250, 100, 250] := by
  have hsizes : ∀ n ∈ [250, 100, 250], 0 < n ∧ n < Text.int64Limit := by decide
  have hblank : ∀ c ∈ [' '], Text.isBlank c := List.forall_mem_singleton.mpr (by decide)
  have hempty : ∀ c ∈ ([] : List Char), Text.isBlank c := nofun
  have hdigits : ([250, 100, 250].map fun n : Nat => (toString n).toList) =
      [['2', '5', '0'], ['1', '0', '0'], ['2', '5', '0']] := by decide +kernel
  have hpads : Text.Pads [[' ', '2', '5', '0'], [' '], ['1', '0', '0'], ['2', '5', '0'], []]
      [['2', '5', '0'], ['1', '0', '0'], ['2', '5', '0']] :=
    .part ['2', '5', '0'] hblank hempty (.blank hblank (.part ['1', '0', '0'] hempty hempty
      (.part ['2', '5', '0'] hempty hempty (.blank hempty .nil))))
  have hread := sizeLists_read.2 [250, 100, 250] _ (by decide) hsizes (hdigits ▸ hpads)
  exact ⟨hsizes, hread⟩

end QueueDrain.Plan
