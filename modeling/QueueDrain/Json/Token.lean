import QueueDrain.Json.Number

/-!
The tokens of JSON documents.

`tokens?` cuts a text into tokens and skips the blanks between them; it fails on what is no token.
Every scanner returns what it read together with the rest of the text.  A number that is too large
for a finite double is a token all the same, and is infinite.
-/

namespace QueueDrain.Json

/-- A token: a mark of punctuation, or a document that is neither array nor object. -/
inductive Token where
  | openArray
  | closeArray
  | openObject
  | closeObject
  | comma
  | colon
  | null
  | bool (b : Bool)
  | number (n : Number)
  | string (s : String)

namespace Token

/-- The four characters that may stand between tokens. -/
def isSpace (c : Char) : Bool := c == ' ' || c == '\n' || c == '\t' || c == '\r'

/-- The digits at the start of a text, as values. -/
def scanDigits : List Char → List Nat × List Char
  | [] => ([], [])
  | c :: s =>
    match Text.digitValue? c with
    | none => ([], c :: s)
    | some d => let (ds, rest) := scanDigits s; (d :: ds, rest)

def decimalValue (ds : List Nat) : Nat := ds.foldl (fun n d => n * 10 + d) 0

/-- A fraction: a point and at least one digit.  `none` is a point without digits. -/
def scanFraction : List Char → Option (Option (List Nat) × List Char)
  | '.' :: s =>
    match scanDigits s with
    | ([], _) => none
    | (ds, rest) => some (some ds, rest)
  | s => some (none, s)

/-- An exponent: a letter, perhaps a sign, and at least one digit. -/
def scanExponent : List Char → Option (Option Int × List Char)
  | [] => some (none, [])
  | c :: s =>
    if c = 'e' ∨ c = 'E' then
      let (negative, s) :=
        match s with
        | '-' :: s => (true, s)
        | '+' :: s => (false, s)
        | s => (false, s)
      match scanDigits s with
      | ([], _) => none
      | (ds, rest) =>
        let e : Int := decimalValue ds
        some (some (if negative then -e else e), rest)
    else some (none, c :: s)

/-- A number as it is written: no leading zero before another digit. -/
def scanLiteral (s : List Char) : Option (Literal × List Char) :=
  let (negative, s) :=
    match s with
    | '-' :: s => (true, s)
    | s => (false, s)
  match scanDigits s with
  | ([], _) => none
  | (whole, s) =>
    if whole.head? = some 0 ∧ whole ≠ [0] then none
    else
      match scanFraction s with
      | none => none
      | some (fraction, s) =>
        match scanExponent s with
        | none => none
        | some (exponent, rest) => some ({ negative, whole, fraction, exponent }, rest)

/-- Four hexadecimal digits. -/
def scanHex : List Char → Option (Nat × List Char)
  | a :: b :: c :: d :: rest =>
    match Text.hexValue? a, Text.hexValue? b, Text.hexValue? c, Text.hexValue? d with
    | some a, some b, some c, some d => some (((a * 16 + b) * 16 + c) * 16 + d, rest)
    | _, _, _, _ => none
  | _ => none

/-- The character of an escape of one letter. -/
def escaped? (c : Char) : Option Char :=
  match c with
  | '"' => some '"'
  | '\\' => some '\\'
  | '/' => some '/'
  | 'b' => some '\x08'
  | 'f' => some '\x0c'
  | 'n' => some '\n'
  | 'r' => some '\r'
  | 't' => some '\t'
  | _ => none

/--
The character of an escape with hexadecimal digits, after the letter.  A code unit from the first
half of the surrogates needs one from the second half after it, in an escape of its own.
-/
def scanUnicode (s : List Char) : Option (Char × List Char) :=
  match scanHex s with
  | none => none
  | some (n, rest) =>
    if 0xDC00 ≤ n ∧ n ≤ 0xDFFF then none
    else if 0xD800 ≤ n ∧ n ≤ 0xDBFF then
      match rest with
      | '\\' :: 'u' :: rest =>
        match scanHex rest with
        | some (m, rest) =>
          if 0xDC00 ≤ m ∧ m ≤ 0xDFFF then
            some (Char.ofNat (0x10000 + (n - 0xD800) * 0x400 + (m - 0xDC00)), rest)
          else none
        | none => none
      | _ => none
    else some (Char.ofNat n, rest)

/-- One character inside a string, or the closing quote (`none`). -/
def scanChar : List Char → Option (Option Char × List Char)
  | [] => none
  | c :: s =>
    if c = '"' then some (none, s)
    else if c = '\\' then
      match s with
      | [] => none
      | e :: s =>
        if e = 'u' then (scanUnicode s).map fun (c, rest) => (some c, rest)
        else (escaped? e).map fun c => (some c, s)
    else if c < ' ' then none
    else some (some c, s)

theorem length_scanHex {s rest : List Char} {n : Nat} (h : scanHex s = some (n, rest)) :
    rest.length < s.length := by
  unfold scanHex at h
  split at h
  · split at h
    · simp only [Option.some.injEq, Prod.mk.injEq] at h
      simp only [← h.2, List.length_cons]; omega
    · contradiction
  · contradiction

theorem length_scanUnicode {s rest : List Char} {c : Char} (h : scanUnicode s = some (c, rest)) :
    rest.length < s.length := by
  unfold scanUnicode at h
  split at h
  · contradiction
  · rename_i n after hn
    have h₁ := length_scanHex hn
    split at h
    · contradiction
    · split at h
      · split at h
        · split at h
          · rename_i hm
            have h₂ := length_scanHex hm
            split at h
            · simp only [Option.some.injEq, Prod.mk.injEq] at h
              simp only [List.length_cons] at h₁
              rw [← h.2]; omega
            · contradiction
          · contradiction
        · contradiction
      · simp only [Option.some.injEq, Prod.mk.injEq] at h
        rw [← h.2]; exact h₁

theorem length_scanChar {s rest : List Char} {c : Option Char} (h : scanChar s = some (c, rest)) :
    rest.length < s.length := by
  unfold scanChar at h
  split at h
  · contradiction
  · rename_i first s
    split at h
    · simp only [Option.some.injEq, Prod.mk.injEq] at h
      simp [← h.2]
    · split at h
      · split at h
        · contradiction
        · rename_i e s
          split at h
          · obtain ⟨⟨d, after⟩, hd, he⟩ := Option.map_eq_some_iff.1 h
            have := length_scanUnicode hd
            simp only [Prod.mk.injEq] at he
            simp only [← he.2, List.length_cons]; omega
          · obtain ⟨d, _, he⟩ := Option.map_eq_some_iff.1 h
            simp only [Prod.mk.injEq] at he
            simp only [← he.2, List.length_cons]; omega
      · split at h
        · contradiction
        · simp only [Option.some.injEq, Prod.mk.injEq] at h
          simp [← h.2]

/-- The rest of a string after the opening quote, with what follows the closing one. -/
def scanString (s : List Char) : Option (List Char × List Char) :=
  match _h : scanChar s with
  | none => none
  | some (none, rest) => some ([], rest)
  | some (some c, rest) => (scanString rest).map fun (cs, rest) => (c :: cs, rest)
termination_by s.length
decreasing_by exact length_scanChar _h

/-- The token at the start of a text that starts with no blank. -/
def scan : List Char → Option (Token × List Char)
  | '[' :: s => some (.openArray, s)
  | ']' :: s => some (.closeArray, s)
  | '\x7b' :: s => some (.openObject, s)
  | '\x7d' :: s => some (.closeObject, s)
  | ',' :: s => some (.comma, s)
  | ':' :: s => some (.colon, s)
  | 'n' :: 'u' :: 'l' :: 'l' :: s => some (.null, s)
  | 't' :: 'r' :: 'u' :: 'e' :: s => some (.bool true, s)
  | 'f' :: 'a' :: 'l' :: 's' :: 'e' :: s => some (.bool false, s)
  | '"' :: s => (scanString s).map fun (cs, rest) => (.string (String.ofList cs), rest)
  | s =>
    match scanLiteral s with
    | none => none
    | some (literal, rest) =>
      some (.number ((Number.ofLiteral? literal).getD (.float (.infinity literal.negative))), rest)

end Token

/--
The tokens of a text, blanks left out, as a scanner finds them one by one; `fuel` bounds their
number.
-/
def tokensWithin (scan : List Char → Option (Token × List Char)) :
    (fuel : Nat) → List Char → Option (List Token)
  | _, [] => some []
  | 0, _ :: _ => none
  | fuel + 1, c :: s =>
    if Token.isSpace c then tokensWithin scan fuel s
    else
      match scan (c :: s) with
      | none => none
      | some (token, rest) => (tokensWithin scan fuel rest).map (token :: ·)

/-- The tokens of a text. -/
def tokens? (s : List Char) : Option (List Token) := tokensWithin Token.scan s.length s

end QueueDrain.Json
