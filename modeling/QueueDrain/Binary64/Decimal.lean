import QueueDrain.Binary64.Basic

/-!
Doubles and decimal notation.

`shortest?` finds, for a positive finite double, the fewest significant decimal digits that read
back as it, and among those of that length the nearest; `text` writes doubles with them.
`ofDecimal` goes the other way and takes a decimal to the nearest double.

Design notes: all comparisons are between natural numbers.  A value of `u` units is `u / 2 ^ 1074`;
the grid of the decimals with last place `10 ^ g` is searched around the value by comparing cross
products, so nothing is rounded before the answer is known.
-/

namespace QueueDrain

/-- The decimal `coefficient * 10 ^ exponent`. -/
structure Decimal where
  coefficient : Nat
  exponent : Int
deriving DecidableEq

namespace Decimal

/-- The decimal digits of a natural number, the first one first; zero has one digit. -/
def digits (n : Nat) : List Char := Nat.toDigits 10 n

/-- The same number without the zeros at the end of its coefficient. -/
def trimmed (d : Decimal) : Decimal :=
  let ds := digits d.coefficient
  let zeros := (ds.reverse.takeWhile (· == '0')).length
  if d.coefficient = 0 then d
  else { coefficient := d.coefficient / Nat.pow 10 zeros, exponent := d.exponent + zeros }

/-- The digits and the exponent of the first of them: `d₁.d₂d₃… * 10 ^ e`. -/
def scientific (d : Decimal) : List Char × Int :=
  let ds := digits d.coefficient
  (ds, d.exponent + (ds.length - 1 : Nat))

end Decimal

/--
How decimals are laid out: between the two exponents in positions, with a fraction even if it is
zero, and outside them as a mantissa with an exponent that always has a sign.
-/
structure DecimalLayout where
  /-- The smallest exponent of the first digit that is written in positions. -/
  leastPositional : Int
  /-- The largest exponent of the first digit that is written in positions. -/
  greatestPositional : Int

namespace DecimalLayout

/-- The digits in positions, for a first digit with exponent `e`. -/
def positional (ds : List Char) (e : Int) : List Char :=
  if e < 0 then '0' :: '.' :: (List.replicate (-e - 1).toNat '0' ++ ds)
  else
    let whole := e.toNat + 1
    if ds.length ≤ whole then ds ++ List.replicate (whole - ds.length) '0' ++ ['.', '0']
    else ds.take whole ++ '.' :: ds.drop whole

/-- The digits as a mantissa with the exponent `e`. -/
def exponential (ds : List Char) (e : Int) : List Char :=
  let mantissa :=
    match ds with
    | d :: more@(_ :: _) => d :: '.' :: more
    | ds => ds
  mantissa ++ 'e' :: (if e < 0 then '-' else '+') :: Decimal.digits e.natAbs

/-- The text of a positive decimal. -/
def write (layout : DecimalLayout) (d : Decimal) : List Char :=
  let (ds, e) := d.trimmed.scientific
  if layout.leastPositional ≤ e ∧ e ≤ layout.greatestPositional then positional ds e
  else exponential ds e

end DecimalLayout

namespace Binary64

/-! ### Writing -/

/--
The exponent of the first decimal digit of `u / unitsPerOne`, for positive `u`: the whole part tells
it when there is one, else the number of times ten that lift the value to one.
-/
def leadingExponent (u : Nat) : Int :=
  if unitsPerOne ≤ u then ((Decimal.digits (u / unitsPerOne)).length - 1 : Nat)
  else -((Decimal.digits ((unitsPerOne - 1) / u)).length : Int)

/--
The decimal nearest to the double of the given magnitude among those with last place `10 ^ g` that
read back as it.  The decimals that read back lie between the midpoints to the two neighbours, and
at a midpoint exactly when ties go to this double, which is when its magnitude is even.
-/
def onGrid? (magnitude : Nat) (g : Int) : Option Decimal :=
  let u := unitsOf magnitude
  let up := Nat.pow 10 (-g).toNat
  let one := unitsPerOne * Nat.pow 10 g.toNat
  let low := (u + unitsOf (magnitude - 1)) * up
  let high := (u + unitsOf (magnitude + 1)) * up
  let readsBack (c : Nat) : Bool :=
    let twice := 2 * c * one
    if magnitude % 2 = 0 then low ≤ twice && twice ≤ high else low < twice && twice < high
  let below := u * up / one
  let above := below + 1
  match readsBack below, readsBack above with
  | true, true =>
    let midpoint := (below + above) * one
    let nearBelow := 2 * u * up < midpoint || (2 * u * up = midpoint && below % 2 = 0)
    some ⟨if nearBelow then below else above, g⟩
  | true, false => some ⟨below, g⟩
  | false, true => some ⟨above, g⟩
  | false, false => none

/--
The shortest decimal that reads back as the positive finite double of this magnitude.  Seventeen
digits are always enough.
-/
def shortest? (magnitude : Nat) : Option Decimal :=
  let e := leadingExponent (unitsOf magnitude)
  (List.range 17).findSome? fun (fewer : Nat) => onGrid? magnitude (e - fewer)

/-- Numbers from `0.00001` below `10 ^ 16` are written in positions. -/
def layout : DecimalLayout := ⟨-5, 15⟩

/-- The text of a double. -/
def text (x : Binary64) : String :=
  if x.isNaN then "NaN"
  else
    let sign := if x.negative then ['-'] else []
    let body :=
      if x.isInfinite then ['i', 'n', 'f']
      else
        match shortest? x.magnitude with
        | some d => if x.isZero then ['0', '.', '0'] else layout.write d
        | none => ['0', '.', '0']
    String.ofList (sign ++ body)

/-! ### Reading -/

/--
The double nearest to a decimal.  From `10 ^ 310` on that is an infinity and below `10 ^ (-330)` a
zero, so the powers of ten that are computed stay small.
-/
def ofDecimal (negative : Bool) (d : Decimal) : Binary64 :=
  let e := d.exponent + (Decimal.digits d.coefficient).length
  if d.coefficient = 0 ∨ e < -330 then zero negative
  else if 311 < e then infinity negative
  else
    ofQuotient negative (d.coefficient * Nat.pow 10 d.exponent.toNat * unitsPerOne)
      (Nat.pow 10 (-d.exponent).toNat)

end Binary64

end QueueDrain
