/-!
UTF-8, strictly and leniently.

`chunk?` takes the first well-formed character off a list of bytes, or the longest start of one that
cannot be completed; `decode?` accepts only texts made of characters, and `decodeLossy` shows U+FFFD
in place of each part that is none.  `characters` does not decode anything: it takes each byte for a
character of its own.
-/

namespace QueueDrain.Text.Utf8

/--
How a character continues after its first byte: the bits the first byte carries, the range of the
second byte and the number of bytes after that.  `none` is a byte that starts no character of
several bytes.
-/
def lead? (b : UInt8) : Option (Nat × (UInt8 × UInt8) × Nat) :=
  let n := b.toNat
  if 0xC2 ≤ n ∧ n ≤ 0xDF then some (n - 0xC0, (0x80, 0xBF), 0)
  else if n = 0xE0 then some (0, (0xA0, 0xBF), 1)
  else if n = 0xED then some (0xD, (0x80, 0x9F), 1)
  else if 0xE1 ≤ n ∧ n ≤ 0xEF then some (n - 0xE0, (0x80, 0xBF), 1)
  else if n = 0xF0 then some (0, (0x90, 0xBF), 2)
  else if 0xF1 ≤ n ∧ n ≤ 0xF3 then some (n - 0xF0, (0x80, 0xBF), 2)
  else if n = 0xF4 then some (4, (0x80, 0x8F), 2)
  else none

/-- Reads `more` continuation bytes, the first one within `range`, onto the code point so far. -/
def continuation (range : UInt8 × UInt8) : (more : Nat) → (code : Nat) → List UInt8 →
    Option Char × List UInt8
  | _, _, [] => (none, [])
  | more, code, b :: rest =>
    if range.1 ≤ b ∧ b ≤ range.2 then
      let code := code * 64 + (b.toNat - 0x80)
      match more with
      | 0 => (some (Char.ofNat code), rest)
      | more + 1 => continuation (0x80, 0xBF) more code rest
    else (none, b :: rest)

/--
The first character and what follows it, or no character and what follows the bytes that spoil it.
-/
def chunk? : List UInt8 → Option (Option Char × List UInt8)
  | [] => none
  | b :: rest =>
    if b < 0x80 then some (some (Char.ofNat b.toNat), rest)
    else
      match lead? b with
      | none => some (none, rest)
      | some (code, range, more) => some (continuation range more code rest)

theorem continuation_length_le (range : UInt8 × UInt8) (more code : Nat) (bytes : List UInt8) :
    (continuation range more code bytes).2.length ≤ bytes.length := by
  induction bytes generalizing range more code with
  | nil => simp [continuation]
  | cons b rest ih =>
    unfold continuation
    split
    · cases more with
      | zero => simp
      | succ more => exact Nat.le_trans (ih ..) (by simp)
    · simp

theorem length_lt_of_chunk? {bytes rest : List UInt8} {c : Option Char}
    (h : chunk? bytes = some (c, rest)) : rest.length < bytes.length := by
  cases bytes with
  | nil => simp [chunk?] at h
  | cons b more =>
    simp only [chunk?] at h
    split at h
    · simp only [Option.some.injEq, Prod.mk.injEq] at h
      simp [← h.2]
    · split at h
      · simp only [Option.some.injEq, Prod.mk.injEq] at h
        simp [← h.2]
      · rename_i code range n _
        simp only [Option.some.injEq] at h
        have := continuation_length_le range n code more
        rw [h] at this
        simpa using Nat.lt_succ_of_le this

/-- The characters and the spoiled parts of a list of bytes, in order. -/
def chunks (bytes : List UInt8) : List (Option Char) :=
  match _h : chunk? bytes with
  | none => []
  | some (c, rest) => c :: chunks rest
termination_by bytes.length
decreasing_by exact length_lt_of_chunk? _h

/-- The text that the bytes encode, if they encode one. -/
def decode? (bytes : List UInt8) : Option (List Char) := (chunks bytes).mapM id

/-- The text of the bytes, with U+FFFD for each spoiled part. -/
def decodeLossy (bytes : List UInt8) : List Char := (chunks bytes).map (·.getD '\uFFFD')

/-- The bytes that encode a text. -/
def encode (s : List Char) : List UInt8 := (String.ofList s).toUTF8.toList

/-- The characters of bytes, each byte by itself. -/
def characters (bytes : List UInt8) : List Char := bytes.map fun b => Char.ofNat b.toNat

end QueueDrain.Text.Utf8
