/-!
Double precision numbers, as exact arithmetic on natural numbers.

A double is a sign and a *magnitude*: the eleven exponent bits and the fifty-two fraction bits, read
as one number.  Every finite double is a whole multiple of the smallest positive one, so its
absolute value is a natural number of *units* (`unitsOf`), and an operation computes its exact
result as a quotient of units and rounds once, to the nearest double with ties to even
(`ofQuotient`).

Design notes:
* On doubles without a sign the order of the values is the order of the magnitudes; that is what
  makes both the numerical comparison (`lt`) and the total order (`totalKey`) comparisons of
  integers.
* Not-a-numbers keep their sign, because the total order puts the negative ones first; their other
  bits are of no account, and `nan` is the only one an operation makes.
-/

namespace QueueDrain

/-- A double precision number: a sign and the 63 bits below it. -/
structure Binary64 where
  /-- Whether the sign bit is set; zeros and not-a-numbers have a sign too. -/
  negative : Bool
  /-- The exponent bits followed by the fraction bits, as one number. -/
  magnitude : Nat
  /-- Sixty-three bits hold the magnitude. -/
  magnitude_lt : magnitude < 0x8000000000000000
deriving DecidableEq

namespace Binary64

/-! ### The bits and what they stand for -/

/-- The number of magnitudes with the same exponent: two to the number of fraction bits. -/
def binade : Nat := 0x10000000000000

/-- The magnitude of the infinities: every exponent bit set, no fraction bit. -/
def infinityMagnitude : Nat := 2047 * binade

/-- The number of units in one: the smallest positive double is `2 ^ (-1074)`. -/
def unitsPerOne : Nat := Nat.pow 2 1074

/-- The absolute value, in units, of the finite doubles with this magnitude. -/
def unitsOf (magnitude : Nat) : Nat :=
  if magnitude < binade then magnitude
  else (binade + magnitude % binade) * Nat.pow 2 (magnitude / binade - 1)

/-- The double with this sign and magnitude; from `infinityMagnitude` on it is an infinity. -/
def ofMagnitude (negative : Bool) (magnitude : Nat) : Binary64 where
  negative := negative
  magnitude := min magnitude infinityMagnitude
  magnitude_lt := by unfold infinityMagnitude binade; omega

/-- Zero, with the given sign. -/
def zero (negative : Bool) : Binary64 := ofMagnitude negative 0

/-- Infinity, with the given sign. -/
def infinity (negative : Bool) : Binary64 := ofMagnitude negative infinityMagnitude

/-- The not-a-number with the given sign. -/
def nan (negative : Bool) : Binary64 where
  negative := negative
  magnitude := infinityMagnitude + binade / 2
  magnitude_lt := by decide

instance : Inhabited Binary64 := ⟨zero false⟩

/-- Whether `x` is not a number. -/
def isNaN (x : Binary64) : Bool := infinityMagnitude < x.magnitude

def isInfinite (x : Binary64) : Bool := x.magnitude == infinityMagnitude

/-- Whether `x` stands for a real number. -/
def isFinite (x : Binary64) : Bool := x.magnitude < infinityMagnitude

def isZero (x : Binary64) : Bool := x.magnitude == 0

/-- The absolute value of a finite double in units. -/
def units (x : Binary64) : Nat := unitsOf x.magnitude

/-- The value of a finite double in units. -/
def signedUnits (x : Binary64) : Int := if x.negative then -(x.units : Int) else x.units

/-! ### Rounding -/

/-- The whole number nearest to `n / d`; of two equally near ones the even one. -/
def roundQuotient (n d : Nat) : Nat :=
  let q := n / d
  let r := n % d
  if 2 * r < d then q
  else if 2 * r = d then q + q % 2
  else q + 1

/--
The magnitude of the double nearest to `n / d` units.  The quotient is scaled down until its whole
part has fifty-three bits, rounded there, and the number of halvings is added to the exponent bits;
a carry into the fifty-fourth bit then counts up the exponent by itself.
-/
def nearestMagnitude (n d : Nat) : Nat :=
  let halvings := (n / d).log2 - 52
  halvings * binade + roundQuotient n (d * Nat.pow 2 halvings)

/-- The double nearest to `n / d` units, with the given sign. -/
def ofQuotient (negative : Bool) (n d : Nat) : Binary64 :=
  ofMagnitude negative (nearestMagnitude n d)

/-- The double nearest to a natural number. -/
def ofNat (n : Nat) : Binary64 := ofQuotient false (n * unitsPerOne) 1

/-- The double nearest to an integer; zero has no sign. -/
def ofInt (n : Int) : Binary64 := ofQuotient (n < 0) (n.natAbs * unitsPerOne) 1

/-! ### Arithmetic -/

/-- The double with the other sign. -/
def neg (x : Binary64) : Binary64 := { x with negative := !x.negative }

/--
The sum.  A sum of opposite numbers is the positive zero, one of two negative zeros a negative zero.
-/
def add (x y : Binary64) : Binary64 :=
  if x.isNaN || y.isNaN then nan false
  else if x.isInfinite then
    if y.isInfinite && x.negative != y.negative then nan false else x
  else if y.isInfinite then y
  else
    let sum := x.signedUnits + y.signedUnits
    if sum = 0 then zero (x.negative && y.negative)
    else ofQuotient (sum < 0) sum.natAbs 1

/-- The product. -/
def mul (x y : Binary64) : Binary64 :=
  let negative := x.negative != y.negative
  if x.isNaN || y.isNaN then nan false
  else if x.isInfinite || y.isInfinite then
    if x.isZero || y.isZero then nan false else infinity negative
  else ofQuotient negative (x.units * y.units) unitsPerOne

/-- The quotient.  A finite number over zero is infinite. -/
def div (x y : Binary64) : Binary64 :=
  let negative := x.negative != y.negative
  if x.isNaN then x
  else if y.isNaN then y
  else if x.isInfinite then
    if y.isInfinite then nan false else infinity negative
  else if y.isInfinite then zero negative
  else if y.isZero then
    if x.isZero then nan false else infinity negative
  else ofQuotient negative (x.units * unitsPerOne) y.units

instance : Neg Binary64 := ⟨neg⟩
instance : Add Binary64 := ⟨add⟩
instance : Mul Binary64 := ⟨mul⟩
instance : Div Binary64 := ⟨div⟩

/-- The nearest whole number, ties to even; the sign stays, also on a zero. -/
def roundTiesEven (x : Binary64) : Binary64 :=
  if x.isFinite then
    ofQuotient x.negative (roundQuotient x.units unitsPerOne * unitsPerOne) 1
  else x

/-- The value cut off at its whole part and clamped to `lo ≤ n ≤ hi`; zero for a not-a-number. -/
def truncate (lo hi : Int) (x : Binary64) : Int :=
  if x.isNaN then 0
  else if x.isInfinite then if x.negative then lo else hi
  else
    let whole : Int := (x.units / unitsPerOne : Nat)
    max lo (min hi (if x.negative then -whole else whole))

/-! ### Order -/

/-- An integer that orders the doubles other than not-a-numbers by value; the two zeros agree. -/
def valueKey (x : Binary64) : Int := if x.negative then -(x.magnitude : Int) else x.magnitude

/-- The numerical order: no not-a-number is less than anything. -/
def lt (x y : Binary64) : Bool := !x.isNaN && !y.isNaN && x.valueKey < y.valueKey

/--
An integer that orders all doubles: by value, the negative zero before the positive one, negative
not-a-numbers before everything and positive ones after.
-/
def totalKey (x : Binary64) : Int :=
  if x.negative then -1 - (x.magnitude : Int) else x.magnitude

/-- Whether `x` comes no later than `y` in the total order. -/
def totalLe (x y : Binary64) : Bool := x.totalKey ≤ y.totalKey

/--
The smaller of two doubles: the number if only one is a number, the first if neither is smaller.
-/
def minimum (x y : Binary64) : Binary64 :=
  if x.isNaN then y else if y.lt x then y else x

/--
The larger of two doubles: the number if only one is a number, the first if neither is larger.
-/
def maximum (x y : Binary64) : Binary64 :=
  if x.isNaN then y else if x.lt y then y else x

end Binary64

end QueueDrain
