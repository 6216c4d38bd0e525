import QueueDrain.Binary64.Decimal
import QueueDrain.Text.Integer

/-!
Numbers of JSON documents.

A number is an integer of 64 bits, signed or unsigned, or a double.  `Literal` is a number as it is
written, and `ofLiteral?` its reading: an integer literal that fits stays an integer, and everything
else is a double.

The reading of doubles (`Literal.double?`) takes the digits from the left as long as they fit into
an unsigned number of 64 bits and scales the double nearest to that number by a power of ten.  The
result is therefore not always the double nearest to the literal; it is, when the digits stay below
`2 ^ 53` and the power of ten below `10 ^ 23`.
-/

namespace QueueDrain.Json

/-- A number: integers keep their exact value. -/
inductive Number where
  /-- An integer, from `-2 ^ 63` below `2 ^ 64`. -/
  | int (n : Int)
  /-- A double; in a document that is admitted it is finite. -/
  | float (x : Binary64)
deriving DecidableEq

/-- A number as it is written, with the values of its digits. -/
structure Literal where
  negative : Bool
  /-- The digits before the point. -/
  whole : List Nat
  /-- The digits after the point, if there is one. -/
  fraction : Option (List Nat)
  /-- The exponent, if there is one. -/
  exponent : Option Int

namespace Literal

/-- The largest number that the digits are collected into. -/
def significandLimit : Nat := UInt64.size - 1

/-- Appends digits to a significand as long as they fit, and returns those that do not. -/
def absorb : (significand : Nat) → List Nat → Nat × List Nat
  | significand, [] => (significand, [])
  | significand, d :: ds =>
    if significandLimit < significand * 10 + d then (significand, d :: ds)
    else absorb (significand * 10 + d) ds

/-- The largest exponent whose power of ten is a double. -/
def greatestPower : Nat := 308

/-- The double nearest to `10 ^ e`, for `e` up to `greatestPower`. -/
def power (e : Nat) : Binary64 := .ofNat (Nat.pow 10 e)

/-- `x * 10 ^ e`, by one multiplication, or by divisions; `none` if the result is not finite. -/
def scale? (x : Binary64) (e : Int) : Option Binary64 :=
  if e.natAbs ≤ greatestPower then
    if 0 ≤ e then
      let y := x * power e.natAbs
      if y.isFinite then some y else none
    else some (x / power e.natAbs)
  else if x.isZero then some x
  else if 0 ≤ e then none
  else scale? (x / power greatestPower) (e + greatestPower)
termination_by e.natAbs
decreasing_by unfold greatestPower at *; omega

/-- The literal as a double, if it is in the range of finite doubles. -/
def double? (l : Literal) : Option Binary64 :=
  let (significand, dropped) := absorb 0 l.whole
  let fraction := l.fraction.getD []
  let (significand, ignored) := absorb significand fraction
  let e : Int := dropped.length - (fraction.length - ignored.length : Nat) + l.exponent.getD 0
  (scale? (.ofNat significand) e).map fun x => if l.negative then -x else x

end Literal

/--
The number that a literal stands for.  Without a point and an exponent it is an integer if it fits;
minus zero is a double, so that its sign is kept.
-/
def Number.ofLiteral? (l : Literal) : Option Number :=
  let (n, dropped) := Literal.absorb 0 l.whole
  if l.fraction.isNone ∧ l.exponent.isNone ∧ dropped = [] then
    if !l.negative then some (.int n)
    else if 0 < n ∧ n ≤ Text.int64Limit then some (.int (-n))
    else some (.float (-(.ofNat n)))
  else l.double?.map .float

/-- The double nearest to a number. -/
def Number.toFloat : Number → Binary64
  | .int n => .ofInt n
  | .float x => x

/-- The number, if it is an integer with a sign and 64 bits. -/
def Number.int64? : Number → Option Int
  | .int n => if -(Text.int64Limit : Int) ≤ n ∧ n < Text.int64Limit then some n else none
  | .float _ => none

/--
A number cut off at its whole part and clamped to the signed numbers of 64 bits.  An integer that is
too large for them is clamped as the double nearest to it.
-/
def Number.toInt64 (n : Number) : Int :=
  n.int64?.getD (n.toFloat.truncate (-Text.int64Limit) (Text.int64Limit - 1))

/-- The text of a number: all digits of an integer, the shortest text of a double. -/
def Number.text : Number → String
  | .int n => toString n
  | .float x => x.text

end QueueDrain.Json
