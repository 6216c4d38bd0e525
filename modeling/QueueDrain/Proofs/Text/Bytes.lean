import QueueDrain.Proofs.Text.Utf8

/-!
The bytes of a text as characters.

A text that is taken byte by byte (`bytewise`) looks like itself as far as its characters are single
bytes; the bytes of larger characters are none of these (`not_isSmall_of_mem_bytewise`).  So whoever
looks only for small characters finds them in the text and in its bytes at the same places
(`exists_of_bytewise_eq_cons`).
-/

namespace QueueDrain.Text.Utf8

/-- A character whose only byte is its code. -/
def IsSmall (c : Char) : Prop := c.val.toNat < 0x80

instance (c : Char) : Decidable (IsSmall c) := inferInstanceAs (Decidable (_ < _))

/-- The bytes of a text, each of them as a character of its own. -/
def bytewise (s : List Char) : List Char := characters (encode s)

@[simp] theorem bytewise_nil : bytewise [] = [] := by
  rw [bytewise, encode_nil]
  rfl

theorem bytewise_append (s t : List Char) : bytewise (s ++ t) = bytewise s ++ bytewise t := by
  rw [bytewise, encode_append]
  exact List.map_append

theorem toNat_characterOf (b : UInt8) : (Char.ofNat b.toNat).val.toNat = b.toNat := by
  have hsize : b.toNat < 256 := b.toNat_lt
  exact toNat_charOfNat (Or.inl (by omega))

theorem bytewise_cons {c : Char} (h : IsSmall c) (s : List Char) :
    bytewise (c :: s) = c :: bytewise s := by
  have hsmall : c.val.toNat < 0x80 := h
  have hbyte : (UInt8.ofNat c.val.toNat).toNat = c.toNat := toNat_ofNat (by omega)
  have hchar : characters (String.utf8EncodeChar c) = [c] := by
    rw [String.utf8EncodeChar, if_pos (by omega), characters, List.map_singleton, hbyte,
      Char.ofNat_toNat]
  rw [bytewise, encode_cons, characters, List.map_append]
  exact congrArg (· ++ _) hchar

/-- No byte of a larger character is a character that is small. -/
theorem not_isSmall_of_mem_bytewise {c d : Char} (h : ¬IsSmall c) (hd : d ∈ bytewise [c]) :
    ¬IsSmall d := by
  have hlarge : ∀ n, 0x80 ≤ n ∧ n < 256 → 0x80 ≤ (UInt8.ofNat n).toNat := by
    rintro n ⟨hlower, hupper⟩
    rw [toNat_ofNat hupper]
    exact hlower
  have hbytes : ∀ b ∈ String.utf8EncodeChar c, 0x80 ≤ b.toNat := by
    have hsmall : ¬c.val.toNat ≤ 0x7f := fun hle => h (Nat.lt_succ_of_le hle)
    intro b hb
    rw [String.utf8EncodeChar, if_neg hsmall] at hb
    generalize c.val.toNat = v at hb
    split at hb
    · simp only [List.mem_cons, List.not_mem_nil, or_false] at hb
      obtain rfl | rfl := hb <;> exact hlarge _ (by omega)
    split at hb
    · simp only [List.mem_cons, List.not_mem_nil, or_false] at hb
      obtain rfl | rfl | rfl := hb <;> exact hlarge _ (by omega)
    · simp only [List.mem_cons, List.not_mem_nil, or_false] at hb
      obtain rfl | rfl | rfl | rfl := hb <;> exact hlarge _ (by omega)
  rw [bytewise, encode_cons, encode_nil, List.append_nil, characters] at hd
  obtain ⟨b, hb, rfl⟩ := List.mem_map.mp hd
  have hle := hbytes b hb
  rw [IsSmall, toNat_characterOf]
  omega

theorem bytewise_singleton_ne_nil (c : Char) : bytewise [c] ≠ [] := by
  intro hnil
  rw [bytewise, characters, List.map_eq_nil_iff] at hnil
  have hdecode := decode?_encode [c]
  rw [hnil] at hdecode
  simp [decode?, chunks, chunk?] at hdecode

/-- The bytes of a larger character start with none that is small. -/
theorem exists_bytewise_eq_cons {c : Char} (h : ¬IsSmall c) (s : List Char) :
    ∃ d t, bytewise (c :: s) = d :: t ∧ ¬IsSmall d := by
  obtain ⟨d, w, hw⟩ := List.exists_cons_of_ne_nil (bytewise_singleton_ne_nil c)
  refine ⟨d, w ++ bytewise s, ?_, not_isSmall_of_mem_bytewise h (hw ▸ List.mem_cons_self)⟩
  rw [← List.singleton_append, bytewise_append, hw, List.cons_append]

theorem length_le_length_bytewise (s : List Char) : s.length ≤ (bytewise s).length := by
  induction s with
  | nil => exact Nat.zero_le _
  | cons c s ih =>
    have hpos := List.length_pos_iff.mpr (bytewise_singleton_ne_nil c)
    rw [← List.singleton_append, bytewise_append, List.length_append, List.length_append,
      List.length_singleton]
    omega

/-- A small character at the start of the bytes of a text is at the start of the text. -/
theorem exists_of_bytewise_eq_cons {s t : List Char} {a : Char} (ha : IsSmall a)
    (h : bytewise s = a :: t) : ∃ s', s = a :: s' ∧ bytewise s' = t := by
  cases s with
  | nil =>
    rw [bytewise_nil] at h
    cases h
  | cons c s =>
    by_cases hc : IsSmall c
    · rw [bytewise_cons hc] at h
      obtain ⟨rfl, rfl⟩ := List.cons.inj h
      exact ⟨s, rfl, rfl⟩
    · obtain ⟨d, t', hbytes, hd⟩ := exists_bytewise_eq_cons hc s
      exact absurd ((List.cons.inj (hbytes.symm.trans h)).1 ▸ ha) hd

/-- Bytes that are taken for characters are bytes again. -/
theorem bytes_bytewise (s : List Char) :
    (bytewise s).map (fun c => UInt8.ofNat c.toNat) = encode s := by
  rw [bytewise, characters, List.map_map]
  have hbyte : ∀ b : UInt8, UInt8.ofNat (Char.ofNat b.toNat).toNat = b := by
    intro b
    have htoNat : (Char.ofNat b.toNat).toNat = b.toNat := toNat_characterOf b
    rw [htoNat, UInt8.ofNat_toNat]
  exact (List.map_congr_left fun b _ => hbyte b).trans (List.map_id _)

end QueueDrain.Text.Utf8
