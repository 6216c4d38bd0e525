import QueueDrain.Binary64.Decimal
import QueueDrain.Text.Integer

/-!
Doubles as free-standing texts.

A text is a sign or none, and then digits with at most one point among them and perhaps an exponent,
or one of the words for what is no number.  The result is the double nearest to the decimal, so the
texts that `Binary64.text` writes read back as the doubles they were written for.
-/

namespace QueueDrain.Binary64

/-- The digits at the start of a text, as one number with their count, and the rest. -/
def spanDigits (s : List Char) : Nat × Nat × List Char :=
  let ds := s.takeWhile Char.isDigit
  (ds.foldl (fun n c => n * 10 + (c.toNat - '0'.toNat)) 0, ds.length, s.dropWhile Char.isDigit)

/-- The largest exponent that is read, of either sign. -/
def greatestExponent : Nat := 1000000000000000000

/-- An exponent, or nothing. -/
def readExponent? : List Char → Option Int
  | [] => some 0
  | c :: s =>
    if c = 'e' ∨ c = 'E' then
      match Text.readInteger greatestExponent greatestExponent s with
      | .ok e => some e
      | .error _ => none
    else none

/-- The decimal that a text without sign spells. -/
def readDecimal? (s : List Char) : Option Decimal :=
  let (whole, wholeCount, s) := spanDigits s
  let (fraction, places, s) :=
    match s with
    | '.' :: s => spanDigits s
    | s => (0, 0, s)
  if wholeCount + places = 0 then none
  else (readExponent? s).map fun e => ⟨whole * Nat.pow 10 places + fraction, e - places⟩

/-- The double that a text spells. -/
def ofText? (text : String) : Option Binary64 :=
  let (negative, s) :=
    match text.toList with
    | '-' :: s => (true, s)
    | '+' :: s => (false, s)
    | s => (false, s)
  let word := String.ofList (s.map Char.toLower)
  if word = "nan" then some (nan negative)
  else if word = "inf" ∨ word = "infinity" then some (infinity negative)
  else (readDecimal? s).map (ofDecimal negative)

end QueueDrain.Binary64
