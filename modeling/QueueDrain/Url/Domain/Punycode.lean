import QueueDrain.Text.Integer

/-!
Punycode: texts as ASCII letters, digits and hyphens.

The characters outside ASCII are written after the last hyphen, as differences in a positional
notation with thirty-six digits whose thresholds adapt to what was written before.  `decode?` reads
such a text.
-/

namespace QueueDrain.Url.Domain.Punycode

/-- The value of a digit: the letters, then the decimal digits. -/
def digitValue? (c : Char) : Option Nat :=
  if 'a' ≤ c ∧ c ≤ 'z' then some (c.toNat - 'a'.toNat)
  else if 'A' ≤ c ∧ c ≤ 'Z' then some (c.toNat - 'A'.toNat)
  else (Text.digitValue? c).map (· + 26)

/-- Below which value a digit at a position ends a number. -/
def threshold (position bias : Nat) : Nat := max 1 (min 26 (position - bias))

/-- Divides by thirty-five until at most 455 is left, and counts thirty-six for each division. -/
def settle (delta : Nat) : Nat × Nat :=
  if 455 < delta then
    let (rest, position) := settle (delta / 35)
    (rest, position + 36)
  else (delta, 0)
termination_by delta
decreasing_by omega

/-- The bias after a difference, when `count` characters have been read. -/
def adapt (delta count : Nat) (first : Bool) : Nat :=
  let delta := if first then delta / 700 else delta / 2
  let (rest, position) := settle (delta + delta / count)
  position + 36 * rest / (rest + 38)

/-- One number of the positional notation, added to `sum`, with what follows it. -/
def number? (bias : Nat) : (position weight sum : Nat) → List Char → Option (Nat × List Char)
  | _, _, _, [] => none
  | position, weight, sum, c :: s =>
    match digitValue? c with
    | none => none
    | some d =>
      let t := threshold position bias
      let sum := sum + d * weight
      if UInt32.size ≤ sum then none
      else if d < t then some (sum, s)
      else number? bias (position + 36) (weight * (36 - t)) sum s

/--
Reads differences and puts the characters they tell into the text; `fuel` bounds their number.
-/
def insertions? : (fuel : Nat) → (text : List Char) → (code index bias : Nat) → List Char →
    Option (List Char)
  | _, text, _, _, _, [] => some text
  | 0, _, _, _, _, _ :: _ => none
  | fuel + 1, text, code, index, bias, c :: s =>
    match number? bias 36 1 index (c :: s) with
    | none => none
    | some (sum, rest) =>
      let count := text.length + 1
      let code := code + sum / count
      let place := sum % count
      if code.isValidChar then
        let text := text.take place ++ Char.ofNat code :: text.drop place
        insertions? fuel text code (place + 1) (adapt (sum - index) count (index == 0)) rest
      else none

/--
The parts before and after the last hyphen; without a hyphen all of the text is the second part.
-/
def splitLast (s : List Char) : List Char × List Char :=
  match s.reverse.span (· != '-') with
  | (after, []) => ([], after.reverse)
  | (after, _ :: before) => (before.reverse, after.reverse)

/-- The text that an ASCII text stands for. -/
def decode? (s : List Char) : Option (List Char) :=
  let (basic, more) := splitLast s
  insertions? more.length basic 128 0 72 more

end QueueDrain.Url.Domain.Punycode
