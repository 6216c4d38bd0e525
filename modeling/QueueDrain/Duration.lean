/-!
Lengths of time in nanoseconds, and their text in the largest unit that leaves a whole part.
-/

namespace QueueDrain

/-- A length of time. -/
structure Duration where
  nanos : Nat
deriving DecidableEq

namespace Duration

/-- A whole number of milliseconds. -/
def ofMillis (ms : Nat) : Duration := ⟨ms * 1000000⟩

instance : LT Duration := ⟨fun a b => a.nanos < b.nanos⟩

instance (a b : Duration) : Decidable (a < b) := inferInstanceAs (Decidable (a.nanos < b.nanos))

/-- The time between an earlier moment and this one, both counted from the same start. -/
def since (later earlier : Duration) : Duration := ⟨later.nanos - earlier.nanos⟩

/-- The whole milliseconds of a length of time. -/
def toMillis (d : Duration) : Nat := d.nanos / 1000000

/-- `n / 10 ^ places` in positions, without zeros at the end of the fraction. -/
def fixedText (n places : Nat) : String :=
  let scale := Nat.pow 10 places
  let whole := toString (n / scale)
  let digits := Nat.toDigits 10 (n % scale)
  let fraction := List.replicate (places - digits.length) '0' ++ digits
  let shown := (fraction.reverse.dropWhile (· == '0')).reverse
  if n % scale = 0 then whole else whole ++ "." ++ String.ofList shown

/-- The text of a length of time, in seconds, milliseconds, microseconds or nanoseconds. -/
def text (d : Duration) : String :=
  if 1000000000 ≤ d.nanos then fixedText d.nanos 9 ++ "s"
  else if 1000000 ≤ d.nanos then fixedText d.nanos 6 ++ "ms"
  else if 1000 ≤ d.nanos then fixedText d.nanos 3 ++ "µs"
  else fixedText d.nanos 0 ++ "ns"

end Duration

end QueueDrain
