import Mathlib.Algebra.Group.Nat.Defs
import QueueDrain.Proofs.Text.Utf8

/-!
The order of texts.

Texts are in the order of their code points exactly if their bytes are in order (`lt_iff_encode`).
What makes it so is that the first bytes of characters are in order, too, and that those with the
same first byte have the same length; so the first byte in which two texts differ has the same place
in a character of the one and of the other (`utf8EncodeChar_append_lt`).
-/

namespace QueueDrain.Text.Utf8

theorem ofNat_cons_lt {m n : Nat} (h : m < n) (hn : n < 256) (s t : List UInt8) :
    UInt8.ofNat m :: s < UInt8.ofNat n :: t := by
  refine List.cons_lt_cons_iff.mpr (Or.inl ?_)
  rw [UInt8.lt_iff_toNat_lt, toNat_ofNat (Nat.lt_trans h hn), toNat_ofNat hn]
  exact h

/-! ### Characters of one length -/

/-- The bytes of a code: six bits of it in each of the last ones, the rest and a mark in the first
one. -/
def bytesOf (mark : Nat) : (tails code : Nat) → List UInt8
  | 0, code => [UInt8.ofNat (code + mark)]
  | tails + 1, code => bytesOf mark tails (code / 64) ++ [UInt8.ofNat (code % 64 + 0x80)]

theorem exists_bytesOf_eq_cons (mark tails code : Nat) :
    ∃ rest, bytesOf mark tails code = UInt8.ofNat (code / 64 ^ tails + mark) :: rest := by
  induction tails generalizing code with
  | zero => exact ⟨[], by rw [bytesOf, Nat.pow_zero, Nat.div_one]⟩
  | succ tails ih =>
    obtain ⟨rest, hrest⟩ := ih (code / 64)
    refine ⟨rest ++ [UInt8.ofNat (code % 64 + 0x80)], ?_⟩
    rw [bytesOf, hrest, Nat.div_div_eq_div_mul, ← Nat.pow_succ', List.cons_append]

/-- Codes with as many bytes are in the order of these, whatever follows them. -/
theorem bytesOf_append_lt {mark tails v w : Nat} (h : v < w) (hw : w / 64 ^ tails + mark < 256)
    (s t : List UInt8) : bytesOf mark tails v ++ s < bytesOf mark tails w ++ t := by
  induction tails generalizing v w s t with
  | zero =>
    rw [Nat.pow_zero, Nat.div_one] at hw
    exact ofNat_cons_lt (Nat.add_lt_add_right h mark) hw s t
  | succ tails ih =>
    rw [Nat.pow_succ', ← Nat.div_div_eq_div_mul] at hw
    rw [bytesOf, bytesOf, List.append_assoc, List.append_assoc]
    -- the codes differ before their last six bits, or only in these
    rcases Nat.lt_or_eq_of_le (Nat.div_le_div_right (c := 64) (Nat.le_of_lt h)) with hlt | heq
    · exact ih hlt hw _ _
    · rw [heq]
      exact List.append_left_lt (ofNat_cons_lt (by omega) (by omega) s t)

/-! ### Characters of all lengths -/

/-- How long the bytes of a code are: the mark of the first one, and how many come after it. -/
inductive Spans (code : Nat) : (mark tails : Nat) → Prop where
  | one (upper : code < 0x80) : Spans code 0 0
  | two (lower : 0x80 ≤ code) (upper : code < 0x800) : Spans code 0xC0 1
  | three (lower : 0x800 ≤ code) (upper : code < 0x10000) : Spans code 0xE0 2
  | four (lower : 0x10000 ≤ code) (upper : code < 0x110000) : Spans code 0xF0 3

theorem exists_spans (c : Char) : ∃ mark tails, Spans c.val.toNat mark tails ∧
    String.utf8EncodeChar c = bytesOf mark tails c.val.toNat := by
  have hvalid : c.val.toNat.isValidChar := c.valid
  simp only [String.utf8EncodeChar]
  generalize c.val.toNat = v at hvalid ⊢
  rw [Nat.isValidChar] at hvalid
  by_cases h1 : v ≤ 0x7f
  · rw [if_pos h1]
    exact ⟨_, _, .one (by omega), rfl⟩
  rw [if_neg h1]
  by_cases h2 : v ≤ 0x7ff
  · rw [if_pos h2, Nat.mod_eq_of_lt (show v / 64 < 32 by omega)]
    exact ⟨_, _, .two (by omega) (by omega), rfl⟩
  rw [if_neg h2]
  by_cases h3 : v ≤ 0xffff
  · rw [if_pos h3, Nat.mod_eq_of_lt (show v / 4096 < 16 by omega),
      show v / 4096 = v / 64 / 64 by omega]
    exact ⟨_, _, .three (by omega) (by omega), rfl⟩
  · rw [if_neg h3, Nat.mod_eq_of_lt (show v / 262144 < 8 by omega),
      show v / 262144 = v / 64 / 64 / 64 by omega, show v / 4096 = v / 64 / 64 by omega]
    exact ⟨_, _, .four (by omega) (by omega), rfl⟩

variable {v w mark tails mark' tails' : Nat}

theorem Spans.first_lt (h : Spans v mark tails) : v / 64 ^ tails + mark < 256 := by
  cases h <;> omega

/-- Of two codes the greater one has more bytes, and then a greater first one, or as many. -/
theorem Spans.same_or_first_lt (hv : Spans v mark tails) (hw : Spans w mark' tails') (h : v < w) :
    mark = mark' ∧ tails = tails' ∨ v / 64 ^ tails + mark < w / 64 ^ tails' + mark' := by
  cases hv <;> cases hw <;> omega

theorem Spans.append_lt (hv : Spans v mark tails) (hw : Spans w mark' tails') (h : v < w)
    (s t : List UInt8) : bytesOf mark tails v ++ s < bytesOf mark' tails' w ++ t := by
  rcases hv.same_or_first_lt hw h with ⟨rfl, rfl⟩ | hlt
  · exact bytesOf_append_lt h hw.first_lt s t
  · obtain ⟨rest, hrest⟩ := exists_bytesOf_eq_cons mark tails v
    obtain ⟨rest', hrest'⟩ := exists_bytesOf_eq_cons mark' tails' w
    rw [hrest, hrest']
    exact ofNat_cons_lt hlt hw.first_lt _ _

/-- **Characters are in the order of their bytes**, whatever follows them. -/
theorem utf8EncodeChar_append_lt {c d : Char} (h : c < d) (s t : List UInt8) :
    String.utf8EncodeChar c ++ s < String.utf8EncodeChar d ++ t := by
  obtain ⟨mark, tails, hc, hbytes⟩ := exists_spans c
  obtain ⟨mark', tails', hd, hbytes'⟩ := exists_spans d
  rw [hbytes, hbytes']
  exact hc.append_lt hd h s t

theorem nil_lt_utf8EncodeChar_append (c : Char) (t : List UInt8) :
    [] < String.utf8EncodeChar c ++ t := by
  obtain ⟨mark, tails, -, hbytes⟩ := exists_spans c
  obtain ⟨rest, hrest⟩ := exists_bytesOf_eq_cons mark tails c.val.toNat
  rw [hbytes, hrest]
  exact List.nil_lt_cons _ _

/-! ### Texts -/

theorem encode_lt_encode {s t : List Char} (h : s < t) : encode s < encode t := by
  induction s generalizing t with
  | nil =>
    cases t with
    | nil => exact absurd h (List.lt_irrefl [])
    | cons d t =>
      rw [encode_nil, encode_cons]
      exact nil_lt_utf8EncodeChar_append d _
  | cons c s ih =>
    cases t with
    | nil => exact absurd h (List.not_lt_nil _)
    | cons d t =>
      rw [encode_cons, encode_cons]
      rcases List.cons_lt_cons_iff.mp h with hlt | ⟨rfl, hst⟩
      · exact utf8EncodeChar_append_lt hlt _ _
      · exact List.append_left_lt (ih hst)

/-- **Texts are in the order of their bytes.** -/
theorem lt_iff_encode {s t : String} : s < t ↔ encode s.toList < encode t.toList := by
  rw [String.lt_iff]
  refine ⟨encode_lt_encode, fun h => Decidable.byContradiction fun hnot => ?_⟩
  -- otherwise the other one comes first, or they are the same
  rcases List.le_iff_lt_or_eq.mp (List.not_lt.mp hnot) with hlt | heq
  · exact List.lt_asymm h (encode_lt_encode hlt)
  · rw [heq] at h
    exact List.lt_irrefl _ h

end QueueDrain.Text.Utf8
