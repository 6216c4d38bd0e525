/-!
Integers in decimal notation.

An integer is read as an optional sign and at least one ASCII digit, with leading zeros allowed,
inside given bounds.  Reading goes from left to right and reports what it meets first: a character
that is no digit, or the digit with which the number leaves its bounds.
-/

namespace QueueDrain.Text

/-- Why a text is no integer within its bounds. -/
inductive IntegerError where
  /-- There is nothing to read. -/
  | empty
  /-- A character that is no digit, or a sign alone. -/
  | invalidDigit
  /-- The number is above the upper bound. -/
  | tooLarge
  /-- The number is below the lower bound. -/
  | tooSmall
deriving DecidableEq

/-- The wording of the error. -/
def IntegerError.message : IntegerError → String
  | .empty => "cannot parse integer from empty string"
  | .invalidDigit => "invalid digit found in string"
  | .tooLarge => "number too large to fit in target type"
  | .tooSmall => "number too small to fit in target type"

def digitValue? (c : Char) : Option Nat :=
  if '0' ≤ c ∧ c ≤ '9' then some (c.toNat - '0'.toNat) else none

/-- The value of a hexadecimal digit, of either case. -/
def hexValue? (c : Char) : Option Nat :=
  if 'a' ≤ c ∧ c ≤ 'f' then some (c.toNat - 'a'.toNat + 10)
  else if 'A' ≤ c ∧ c ≤ 'F' then some (c.toNat - 'A'.toNat + 10)
  else digitValue? c

/-- Reads digits after a number that is already `value`; `overflow` is the error above `limit`. -/
def readDigits (limit : Nat) (overflow : IntegerError) :
    (value : Nat) → List Char → Except IntegerError Nat
  | value, [] => .ok value
  | value, c :: s =>
    match digitValue? c with
    | none => .error .invalidDigit
    | some d =>
      if limit < value * 10 + d then .error overflow
      else readDigits limit overflow (value * 10 + d) s

/--
Reads an integer from `-below` to `above`; where nothing below zero is allowed, no minus is read.
-/
def readInteger (below above : Nat) : List Char → Except IntegerError Int
  | [] => .error .empty
  | [c] =>
    if c = '+' ∨ c = '-' then .error .invalidDigit
    else (readDigits above .tooLarge 0 [c]).map (↑·)
  | c :: s =>
    if c = '+' then (readDigits above .tooLarge 0 s).map (↑·)
    else if c = '-' ∧ 0 < below then (readDigits below .tooSmall 0 s).map (-↑·)
    else (readDigits above .tooLarge 0 (c :: s)).map (↑·)

/-- The signed numbers of 64 bits are those from `-int64Limit` below `int64Limit`. -/
def int64Limit : Nat := 0x8000000000000000

/-- Reads a signed number of 64 bits. -/
def readInt64 : List Char → Except IntegerError Int := readInteger int64Limit (int64Limit - 1)

/-- Reads an unsigned number of 64 bits. -/
def readNat64 (s : List Char) : Except IntegerError Nat :=
  (readInteger 0 (UInt64.size - 1) s).map Int.toNat

end QueueDrain.Text
