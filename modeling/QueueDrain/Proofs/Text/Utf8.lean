import QueueDrain.Text.Utf8

/-!
Texts as bytes and back.

The bytes of a text are the bytes of its characters one after the other (`encode_eq`), and reading
them gives the text again, strictly (`decode?_encode`) as well as leniently
(`decodeLossy_encode`).  No other bytes are read as a text (`encode_of_decode?`).

Design notes: reading is by characters, so all rests on what `chunk?` does with the bytes of one
character in front of others.  Its cases are the lengths of characters; the ranges of second bytes
are those that keep out codes that are no characters or have a shorter form.
-/

namespace QueueDrain.Text.Utf8

/-! ### Bytes of a text -/

/-- The bytes from a place on go behind those that were gathered in reverse. -/
theorem toList_loop (bytes : ByteArray) (more i : Nat) (l : List UInt8)
    (hmore : bytes.size - i = more) :
    ByteArray.toList.loop bytes i l = l.reverse ++ bytes.data.toList.drop i := by
  rw [ByteArray.toList.loop]
  induction more generalizing i l with
  | zero =>
    have hend : bytes.data.toList.length ≤ i := by
      rw [Array.length_toList, ByteArray.size_data]
      omega
    rw [if_neg (by omega), List.drop_of_length_le hend, List.append_nil]
  | succ more ih =>
    have hi : i < bytes.size := by omega
    have hdrop : bytes.data.toList.drop i = bytes.get! i :: bytes.data.toList.drop (i + 1) := by
      rw [List.drop_eq_getElem_cons (by rwa [Array.length_toList, ByteArray.size_data]),
        Array.getElem_toList]
      exact congrArg (· :: _) (getElem!_pos bytes.data i hi).symm
    rw [if_pos hi, ByteArray.toList.loop, ih (i + 1) _ (by omega), hdrop, List.reverse_cons,
      List.append_assoc, List.singleton_append]

theorem toList_eq (bytes : ByteArray) : bytes.toList = bytes.data.toList := by
  rw [ByteArray.toList, toList_loop bytes _ 0 [] rfl]
  rfl

theorem encode_eq (s : List Char) : encode s = s.flatMap String.utf8EncodeChar := by
  rw [encode, String.toUTF8_eq_toByteArray, String.toByteArray_ofList, toList_eq, List.utf8Encode,
    List.toList_data_toByteArray]

@[simp] theorem encode_nil : encode [] = [] := by rw [encode_eq]; rfl

theorem encode_cons (c : Char) (s : List Char) :
    encode (c :: s) = String.utf8EncodeChar c ++ encode s := by
  rw [encode_eq, encode_eq, List.flatMap_cons]

theorem encode_append (s t : List Char) : encode (s ++ t) = encode s ++ encode t := by
  rw [encode_eq, encode_eq, encode_eq, List.flatMap_append]

/-! ### One character -/

theorem toNat_ofNat {n : Nat} (h : n < 256) : (UInt8.ofNat n).toNat = n := by
  rw [UInt8.toNat_ofNat']
  exact Nat.mod_eq_of_lt h

/-- A byte in the range for the second byte of a character is taken, and ends a character of two
bytes. -/
theorem continuation_last {lo hi : UInt8} {n : Nat} (hn : n < 64)
    (h : lo.toNat ≤ n + 0x80 ∧ n + 0x80 ≤ hi.toNat) (code : Nat) (rest : List UInt8) :
    continuation (lo, hi) 0 code (UInt8.ofNat (n + 0x80) :: rest) =
      (some (Char.ofNat (code * 64 + n)), rest) := by
  have hrange : lo ≤ UInt8.ofNat (n + 0x80) ∧ UInt8.ofNat (n + 0x80) ≤ hi := by
    rw [UInt8.le_iff_toNat_le, UInt8.le_iff_toNat_le, toNat_ofNat (by omega)]
    exact h
  rw [continuation, if_pos hrange, toNat_ofNat (by omega), Nat.add_sub_cancel]

theorem continuation_more {lo hi : UInt8} {n : Nat} (hn : n < 64)
    (h : lo.toNat ≤ n + 0x80 ∧ n + 0x80 ≤ hi.toNat) (more code : Nat) (rest : List UInt8) :
    continuation (lo, hi) (more + 1) code (UInt8.ofNat (n + 0x80) :: rest) =
      continuation (0x80, 0xBF) more (code * 64 + n) rest := by
  have hrange : lo ≤ UInt8.ofNat (n + 0x80) ∧ UInt8.ofNat (n + 0x80) ≤ hi := by
    rw [UInt8.le_iff_toNat_le, UInt8.le_iff_toNat_le, toNat_ofNat (by omega)]
    exact h
  rw [continuation, if_pos hrange, toNat_ofNat (by omega), Nat.add_sub_cancel]

/-- The first byte of a character of two bytes. -/
theorem lead?_two {n : Nat} (hlower : 2 ≤ n) (hupper : n < 32) :
    lead? (UInt8.ofNat (n + 0xC0)) = some (n, (0x80, 0xBF), 0) := by
  rw [lead?, toNat_ofNat (by omega), if_pos (by omega), Nat.add_sub_cancel]

/-- The first byte of a character of three bytes, and which second bytes go with it. -/
theorem lead?_three {n m : Nat} (hn : n < 16) (hm : m < 64) (hlong : n = 0 → 32 ≤ m)
    (hsurrogate : n = 13 → m < 32) :
    ∃ lo hi, lead? (UInt8.ofNat (n + 0xE0)) = some (n, (lo, hi), 1) ∧
      lo.toNat ≤ m + 0x80 ∧ m + 0x80 ≤ hi.toNat := by
  rw [lead?, toNat_ofNat (by omega), if_neg (by omega)]
  by_cases h0 : n = 0
  · rw [if_pos (by omega)]
    exact ⟨0xA0, 0xBF, by rw [h0], show 0xA0 ≤ _ by omega, show _ ≤ 0xBF by omega⟩
  · rw [if_neg (by omega)]
    by_cases h13 : n = 13
    · rw [if_pos (by omega)]
      exact ⟨0x80, 0x9F, by rw [h13], show 0x80 ≤ _ by omega, show _ ≤ 0x9F by omega⟩
    · rw [if_neg (by omega), if_pos (by omega), Nat.add_sub_cancel]
      exact ⟨0x80, 0xBF, rfl, show 0x80 ≤ _ by omega, show _ ≤ 0xBF by omega⟩

/-- The first byte of a character of four bytes, and which second bytes go with it. -/
theorem lead?_four {n m : Nat} (hn : n < 5) (hm : m < 64) (hlong : n = 0 → 16 ≤ m)
    (hlarge : n = 4 → m < 16) :
    ∃ lo hi, lead? (UInt8.ofNat (n + 0xF0)) = some (n, (lo, hi), 2) ∧
      lo.toNat ≤ m + 0x80 ∧ m + 0x80 ≤ hi.toNat := by
  rw [lead?, toNat_ofNat (by omega), if_neg (by omega), if_neg (by omega), if_neg (by omega),
    if_neg (by omega)]
  by_cases h0 : n = 0
  · rw [if_pos (by omega)]
    exact ⟨0x90, 0xBF, by rw [h0], show 0x90 ≤ _ by omega, show _ ≤ 0xBF by omega⟩
  · rw [if_neg (by omega)]
    by_cases h4 : n = 4
    · rw [if_neg (by omega), if_pos (by omega)]
      exact ⟨0x80, 0x8F, by rw [h4], show 0x80 ≤ _ by omega, show _ ≤ 0x8F by omega⟩
    · rw [if_pos (by omega), Nat.add_sub_cancel]
      exact ⟨0x80, 0xBF, rfl, show 0x80 ≤ _ by omega, show _ ≤ 0xBF by omega⟩

/-- A first byte of several is followed by the rest of its character. -/
theorem chunk?_of_lead? {n code more : Nat} {range : UInt8 × UInt8} (hlower : 0x80 ≤ n)
    (hupper : n < 256) (h : lead? (UInt8.ofNat n) = some (code, range, more)) (rest : List UInt8) :
    chunk? (UInt8.ofNat n :: rest) = some (continuation range more code rest) := by
  have hlarge : ¬ UInt8.ofNat n < 0x80 := by
    rw [UInt8.lt_iff_toNat_lt, toNat_ofNat hupper]
    exact Nat.not_lt.mpr hlower
  rw [chunk?, if_neg hlarge, h]

/-- The continuation range of all bytes but the first two. -/
theorem tail_range {n : Nat} (hn : n < 64) :
    (0x80 : UInt8).toNat ≤ n + 0x80 ∧ n + 0x80 ≤ (0xBF : UInt8).toNat :=
  ⟨show 0x80 ≤ _ by omega, show _ ≤ 0xBF by omega⟩

/-- **The bytes of a character are read as that character**, whatever follows. -/
theorem chunk?_utf8EncodeChar (c : Char) (rest : List UInt8) :
    chunk? (String.utf8EncodeChar c ++ rest) = some (some c, rest) := by
  have hvalid : c.val.toNat.isValidChar := c.valid
  have hc : Char.ofNat c.val.toNat = c := Char.ofNat_toNat c
  rw [String.utf8EncodeChar]
  generalize c.val.toNat = v at hvalid hc
  rw [Nat.isValidChar] at hvalid
  by_cases h1 : v ≤ 0x7f
  · have hsmall : UInt8.ofNat v < 0x80 := by
      rw [UInt8.lt_iff_toNat_lt, toNat_ofNat (by omega)]
      exact show v < 0x80 by omega
    simp only [if_pos h1, List.cons_append, List.nil_append, chunk?, if_pos hsmall,
      toNat_ofNat (show v < 256 by omega), hc]
  by_cases h2 : v ≤ 0x7ff
  · have hlead := lead?_two (n := v / 64) (by omega) (by omega)
    simp only [if_neg h1, if_pos h2, List.cons_append, List.nil_append,
      Nat.mod_eq_of_lt (show v / 64 < 0x20 by omega)]
    rw [chunk?_of_lead? (by omega) (by omega) hlead,
      continuation_last (Nat.mod_lt _ (by omega)) (tail_range (Nat.mod_lt _ (by omega))),
      show v / 64 * 64 + v % 0x40 = v by omega, hc]
  by_cases h3 : v ≤ 0xffff
  · obtain ⟨lo, hi, hlead, hrange⟩ := lead?_three (n := v / 4096) (m := v / 64 % 0x40) (by omega)
      (by omega) (by omega) (by omega)
    simp only [if_neg h1, if_neg h2, if_pos h3, List.cons_append, List.nil_append,
      Nat.mod_eq_of_lt (show v / 4096 < 0x10 by omega)]
    rw [chunk?_of_lead? (by omega) (by omega) hlead,
      continuation_more (Nat.mod_lt _ (by omega)) hrange,
      continuation_last (Nat.mod_lt _ (by omega)) (tail_range (Nat.mod_lt _ (by omega))),
      show (v / 4096 * 64 + v / 64 % 0x40) * 64 + v % 0x40 = v by omega, hc]
  · obtain ⟨lo, hi, hlead, hrange⟩ := lead?_four (n := v / 262144) (m := v / 4096 % 0x40) (by omega)
      (by omega) (by omega) (by omega)
    simp only [if_neg h1, if_neg h2, if_neg h3, List.cons_append, List.nil_append,
      Nat.mod_eq_of_lt (show v / 262144 < 0x08 by omega)]
    rw [chunk?_of_lead? (by omega) (by omega) hlead,
      continuation_more (Nat.mod_lt _ (by omega)) hrange,
      continuation_more (Nat.mod_lt _ (by omega)) (tail_range (Nat.mod_lt _ (by omega))),
      continuation_last (Nat.mod_lt _ (by omega)) (tail_range (Nat.mod_lt _ (by omega))),
      show ((v / 262144 * 64 + v / 4096 % 0x40) * 64 + v / 64 % 0x40) * 64 + v % 0x40 = v by omega,
      hc]

/-! ### Whole texts -/

theorem chunks_of_chunk? {bytes rest : List UInt8} {c : Option Char}
    (h : chunk? bytes = some (c, rest)) : chunks bytes = c :: chunks rest := by
  rw [chunks]
  split
  · rename_i hnone
    cases hnone.symm.trans h
  · rename_i c' rest' hsome
    cases hsome.symm.trans h
    rfl

theorem chunks_encode (s : List Char) : chunks (encode s) = s.map some := by
  induction s with
  | nil =>
    rw [encode_nil, chunks]
    rfl
  | cons c s ih =>
    rw [encode_cons, chunks_of_chunk? (chunk?_utf8EncodeChar c (encode s)), ih, List.map_cons]

/-- **The bytes of a text are read as that text.** -/
@[simp] theorem decode?_encode (s : List Char) : decode? (encode s) = some s := by
  rw [decode?, chunks_encode, List.mapM_map]
  induction s with
  | nil => rfl
  | cons c s ih =>
    rw [List.mapM_cons, ih]
    rfl

/-- Where all is well-formed, the lenient reader has nothing to show in place of it. -/
@[simp] theorem decodeLossy_encode (s : List Char) : decodeLossy (encode s) = s := by
  rw [decodeLossy, chunks_encode, List.map_map]
  exact List.map_id s

/-! ### Bytes that are read -/

theorem toNat_charOfNat {v : Nat} (h : v.isValidChar) : (Char.ofNat v).val.toNat = v := by
  rw [Char.ofNat, dif_pos h]
  rfl

theorem utf8EncodeChar_one {v : Nat} (h : v < 0x80) :
    String.utf8EncodeChar (Char.ofNat v) = [UInt8.ofNat v] := by
  have hvalue := toNat_charOfNat (v := v) (Or.inl (by omega))
  simp only [String.utf8EncodeChar, hvalue]
  rw [if_pos (by omega)]

theorem utf8EncodeChar_two {n m : Nat} (hlower : 2 ≤ n) (hupper : n < 32) (hm : m < 64) :
    String.utf8EncodeChar (Char.ofNat (n * 64 + m)) =
      [UInt8.ofNat (n + 0xC0), UInt8.ofNat (m + 0x80)] := by
  have hvalue := toNat_charOfNat (v := n * 64 + m) (Or.inl (by omega))
  simp only [String.utf8EncodeChar, hvalue]
  rw [if_neg (by omega), if_pos (by omega), show (n * 64 + m) / 64 % 32 = n by omega,
    show (n * 64 + m) % 64 = m by omega]

theorem utf8EncodeChar_three {n m k : Nat} (hn : n < 16) (hm : m < 64) (hk : k < 64)
    (hlong : n = 0 → 32 ≤ m) (hsurrogate : n = 13 → m < 32) :
    String.utf8EncodeChar (Char.ofNat ((n * 64 + m) * 64 + k)) =
      [UInt8.ofNat (n + 0xE0), UInt8.ofNat (m + 0x80), UInt8.ofNat (k + 0x80)] := by
  have hvalid : ((n * 64 + m) * 64 + k).isValidChar := by
    rw [Nat.isValidChar]
    omega
  have hvalue := toNat_charOfNat hvalid
  simp only [String.utf8EncodeChar, hvalue]
  rw [if_neg (by omega), if_neg (by omega), if_pos (by omega),
    show ((n * 64 + m) * 64 + k) / 4096 % 16 = n by omega,
    show ((n * 64 + m) * 64 + k) / 64 % 64 = m by omega,
    show ((n * 64 + m) * 64 + k) % 64 = k by omega]

theorem utf8EncodeChar_four {n m k j : Nat} (hn : n < 5) (hm : m < 64) (hk : k < 64) (hj : j < 64)
    (hlong : n = 0 → 16 ≤ m) (hlarge : n = 4 → m < 16) :
    String.utf8EncodeChar (Char.ofNat (((n * 64 + m) * 64 + k) * 64 + j)) =
      [UInt8.ofNat (n + 0xF0), UInt8.ofNat (m + 0x80), UInt8.ofNat (k + 0x80),
        UInt8.ofNat (j + 0x80)] := by
  have hvalid : (((n * 64 + m) * 64 + k) * 64 + j).isValidChar := by
    rw [Nat.isValidChar]
    omega
  have hvalue := toNat_charOfNat hvalid
  simp only [String.utf8EncodeChar, hvalue]
  rw [if_neg (by omega), if_neg (by omega), if_neg (by omega),
    show (((n * 64 + m) * 64 + k) * 64 + j) / 262144 % 8 = n by omega,
    show (((n * 64 + m) * 64 + k) * 64 + j) / 4096 % 64 = m by omega,
    show (((n * 64 + m) * 64 + k) * 64 + j) / 64 % 64 = k by omega,
    show (((n * 64 + m) * 64 + k) * 64 + j) % 64 = j by omega]

/-- How a character of several bytes begins, and which second bytes go with that. -/
inductive Lead (b : UInt8) : Nat → UInt8 × UInt8 → Nat → Prop where
  | two (n : Nat) (byte : b = UInt8.ofNat (n + 0xC0)) (lower : 2 ≤ n) (upper : n < 32) :
    Lead b n (0x80, 0xBF) 0
  | three (n : Nat) (lo hi : UInt8) (byte : b = UInt8.ofNat (n + 0xE0)) (upper : n < 16)
    (tail : 0x80 ≤ lo.toNat) (second : ∀ m, lo.toNat ≤ m + 0x80 → m + 0x80 ≤ hi.toNat →
      m < 64 ∧ (n = 0 → 32 ≤ m) ∧ (n = 13 → m < 32)) : Lead b n (lo, hi) 1
  | four (n : Nat) (lo hi : UInt8) (byte : b = UInt8.ofNat (n + 0xF0)) (upper : n < 5)
    (tail : 0x80 ≤ lo.toNat) (second : ∀ m, lo.toNat ≤ m + 0x80 → m + 0x80 ≤ hi.toNat →
      m < 64 ∧ (n = 0 → 16 ≤ m) ∧ (n = 4 → m < 16)) : Lead b n (lo, hi) 2

theorem lead_of_lead? {b : UInt8} {code more : Nat} {range : UInt8 × UInt8}
    (h : lead? b = some (code, range, more)) : Lead b code range more := by
  have hbyte : b = UInt8.ofNat b.toNat := UInt8.ofNat_toNat.symm
  rw [lead?] at h
  generalize b.toNat = n at h hbyte
  subst hbyte
  split at h
  next hn =>
    simp only [Option.some.injEq, Prod.mk.injEq] at h
    obtain ⟨rfl, rfl, rfl⟩ := h
    exact .two _ (by rw [Nat.sub_add_cancel (by omega)]) (by omega) (by omega)
  split at h
  next hn =>
    cases h
    refine .three 0 0xA0 0xBF (by rw [hn]) (by omega) (by decide) fun m hlo hhi => ?_
    have hlower : 0xA0 ≤ m + 0x80 := hlo
    have hupper : m + 0x80 ≤ 0xBF := hhi
    omega
  split at h
  next hn =>
    cases h
    refine .three 13 0x80 0x9F (by rw [hn]) (by omega) (by decide) fun m _ hhi => ?_
    have hupper : m + 0x80 ≤ 0x9F := hhi
    omega
  split at h
  next hn =>
    simp only [Option.some.injEq, Prod.mk.injEq] at h
    obtain ⟨rfl, rfl, rfl⟩ := h
    refine .three _ 0x80 0xBF (by rw [Nat.sub_add_cancel (by omega)]) (by omega) (by decide)
      fun m _ hhi => ?_
    have hupper : m + 0x80 ≤ 0xBF := hhi
    omega
  split at h
  next hn =>
    cases h
    refine .four 0 0x90 0xBF (by rw [hn]) (by omega) (by decide) fun m hlo hhi => ?_
    have hlower : 0x90 ≤ m + 0x80 := hlo
    have hupper : m + 0x80 ≤ 0xBF := hhi
    omega
  split at h
  next hn =>
    simp only [Option.some.injEq, Prod.mk.injEq] at h
    obtain ⟨rfl, rfl, rfl⟩ := h
    refine .four _ 0x80 0xBF (by rw [Nat.sub_add_cancel (by omega)]) (by omega) (by decide)
      fun m _ hhi => ?_
    have hupper : m + 0x80 ≤ 0xBF := hhi
    omega
  split at h
  next hn =>
    cases h
    refine .four 4 0x80 0x8F (by rw [hn]) (by omega) (by decide) fun m _ hhi => ?_
    have hupper : m + 0x80 ≤ 0x8F := hhi
    omega
  next => cases h

/-- The next byte of a character, and what it adds to the code. -/
theorem exists_of_continuation {lo hi : UInt8} {more code : Nat} {bytes rest : List UInt8}
    {c : Char} (hlo : 0x80 ≤ lo.toNat)
    (h : continuation (lo, hi) more code bytes = (some c, rest)) :
    ∃ m bytes', bytes = UInt8.ofNat (m + 0x80) :: bytes' ∧ lo.toNat ≤ m + 0x80 ∧
      m + 0x80 ≤ hi.toNat ∧
      match more with
      | 0 => c = Char.ofNat (code * 64 + m) ∧ bytes' = rest
      | more + 1 => continuation (0x80, 0xBF) more (code * 64 + m) bytes' = (some c, rest) := by
  cases bytes with
  | nil => simp [continuation] at h
  | cons b bytes =>
    rw [continuation] at h
    split at h
    next hrange =>
      obtain ⟨hlower, hupper⟩ := hrange
      rw [UInt8.le_iff_toNat_le] at hlower hupper
      have hle : 0x80 ≤ b.toNat := Nat.le_trans hlo hlower
      refine ⟨b.toNat - 0x80, bytes, ?_, ?_, ?_, ?_⟩
      · rw [Nat.sub_add_cancel hle, UInt8.ofNat_toNat]
      · rwa [Nat.sub_add_cancel hle]
      · rwa [Nat.sub_add_cancel hle]
      · cases more with
        | zero =>
          obtain ⟨hc, hrest⟩ := Prod.mk.inj h
          exact ⟨(Option.some.inj hc).symm, hrest⟩
        | succ more => exact h
    next => cases h

/-- **What is read as a character is the bytes of that character.** -/
theorem eq_of_chunk? {bytes rest : List UInt8} {c : Char}
    (h : chunk? bytes = some (some c, rest)) : bytes = String.utf8EncodeChar c ++ rest := by
  cases bytes with
  | nil => cases h
  | cons b bytes =>
    rw [chunk?] at h
    split at h
    next hsmall =>
      rw [UInt8.lt_iff_toNat_lt] at hsmall
      have hlt : b.toNat < 0x80 := hsmall
      simp only [Option.some.injEq, Prod.mk.injEq] at h
      obtain ⟨rfl, rfl⟩ := h
      rw [utf8EncodeChar_one hlt, UInt8.ofNat_toNat]
      rfl
    split at h
    next => simp at h
    next code range more hlead =>
      have htail : ∀ {m : Nat}, m + 0x80 ≤ (0xBF : UInt8).toNat → m < 64 := by
        intro m hm
        have hle : m + 0x80 ≤ 0xBF := hm
        omega
      have hread := Option.some.inj h
      cases lead_of_lead? hlead with
      | two byte lower upper =>
        obtain ⟨m, _, rfl, -, hm, rfl, rfl⟩ := exists_of_continuation (by decide) hread
        rw [utf8EncodeChar_two lower upper (htail hm), byte]
        rfl
      | three lo hi byte upper tail second =>
        obtain ⟨m, _, rfl, hlo, hhi, hread⟩ := exists_of_continuation tail hread
        obtain ⟨k, _, rfl, -, hk, rfl, rfl⟩ := exists_of_continuation (by decide) hread
        obtain ⟨hm, hlong, hsurrogate⟩ := second m hlo hhi
        rw [utf8EncodeChar_three upper hm (htail hk) hlong hsurrogate, byte]
        rfl
      | four lo hi byte upper tail second =>
        obtain ⟨m, _, rfl, hlo, hhi, hread⟩ := exists_of_continuation tail hread
        obtain ⟨k, _, rfl, -, hk, hread⟩ := exists_of_continuation (by decide) hread
        obtain ⟨j, _, rfl, -, hj, rfl, rfl⟩ := exists_of_continuation (by decide) hread
        obtain ⟨hm, hlong, hlarge⟩ := second m hlo hhi
        rw [utf8EncodeChar_four upper hm (htail hk) (htail hj) hlong hlarge, byte]
        rfl

theorem chunks_eq_nil_of_chunk? {bytes : List UInt8} (h : chunk? bytes = none) : bytes = [] := by
  cases bytes with
  | nil => rfl
  | cons b bytes =>
    rw [chunk?] at h
    split at h
    · cases h
    · split at h <;> cases h

/-- **Bytes that are read as a text are the bytes of that text.** -/
theorem encode_of_decode? {bytes : List UInt8} {s : List Char} (h : decode? bytes = some s) :
    encode s = bytes := by
  rw [decode?] at h
  induction bytes using chunks.induct generalizing s with
  | case1 bytes hnone =>
    obtain rfl := chunks_eq_nil_of_chunk? hnone
    rw [chunks] at h
    cases h
    exact encode_nil
  | case2 bytes c rest hsome ih =>
    rw [chunks_of_chunk? hsome, List.mapM_cons] at h
    simp only [Option.bind_eq_bind, Option.bind_eq_some_iff, Option.pure_def,
      Option.some.injEq] at h
    obtain ⟨c, rfl, s, hs, rfl⟩ := h
    rw [encode_cons, ih hs]
    exact (eq_of_chunk? hsome).symm

end QueueDrain.Text.Utf8
