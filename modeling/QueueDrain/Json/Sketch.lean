import QueueDrain.Json.Parser

/-!
Reading JSON documents in part.

Who looks only at some parts of a document reads it as a sketch: it is cut into tokens and put
together as ever, but its strings stay as they are written.  So a string that nobody looks at need
not be legible: its escapes need only have the form of escapes, and its bytes need not be UTF-8.
A string of a sketch that somebody does look at is read with `Lexeme.read?`.

Every character of a sketch is a single byte.
-/

namespace QueueDrain.Json

namespace Token

/-- One character inside a string as it is written, and what follows it. -/
def skipChar : List Char → Option (List Char × List Char)
  | [] => none
  | c :: s =>
    if c = '\\' then
      match s with
      | [] => none
      | e :: s =>
        if e = 'u' then (scanHex s).map fun (_, rest) => (c :: e :: s.take 4, rest)
        else if (escaped? e).isSome then some ([c, e], s)
        else none
    else if c < ' ' then none
    else some ([c], s)

theorem length_skipChar {s rest lexeme : List Char} (h : skipChar s = some (lexeme, rest)) :
    rest.length < s.length := by
  unfold skipChar at h
  split at h
  · contradiction
  · split at h
    · split at h
      · contradiction
      · split at h
        · obtain ⟨⟨n, after⟩, hhex, heq⟩ := Option.map_eq_some_iff.mp h
          obtain ⟨-, rfl⟩ := Prod.mk.inj heq
          have hlt := length_scanHex hhex
          simp only [List.length_cons]
          omega
        · split at h
          · obtain ⟨-, rfl⟩ := Prod.mk.inj (Option.some.inj h)
            simp only [List.length_cons]
            omega
          · contradiction
    · split at h
      · contradiction
      · obtain ⟨-, rfl⟩ := Prod.mk.inj (Option.some.inj h)
        simp only [List.length_cons]
        omega

/--
The rest of a string after the opening quote, as it is written, with what follows the closing one.
-/
def skipString (s : List Char) : Option (List Char × List Char) :=
  match s with
  | [] => none
  | c :: more =>
    if c = '"' then some ([], more)
    else
      match _h : skipChar (c :: more) with
      | none => none
      | some (lexeme, rest) =>
        (skipString rest).map fun (lexemes, rest) => (lexeme ++ lexemes, rest)
termination_by s.length
decreasing_by exact length_skipChar _h

/-- The token at the start of a text that starts with no blank; a string stays as it is written. -/
def sketch : List Char → Option (Token × List Char)
  | '"' :: s => (skipString s).map fun (lexeme, rest) => (.string (String.ofList lexeme), rest)
  | s => scan s

end Token

/-- The sketch of the document that bytes spell. -/
def sketch? (bytes : List UInt8) : Option Json :=
  (tokensWithin Token.sketch bytes.length (Text.Utf8.characters bytes)).bind ofTokens?

/-- The text of a string that is written between quotes, if it is legible. -/
def Lexeme.read? (lexeme : String) : Option String := do
  let s ← Text.Utf8.decode? (lexeme.toList.map fun c => UInt8.ofNat c.toNat)
  match Token.scanString (s ++ ['"']) with
  | some (text, []) => some (String.ofList text)
  | _ => none

end QueueDrain.Json
