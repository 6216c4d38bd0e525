import QueueDrain.Url.Domain.Basic
import QueueDrain.Url.Percent

/-!
Hosts of web addresses: addresses of the two internet protocols, and domain names.
-/

namespace QueueDrain.Url

/-! ### Four-part addresses -/

inductive AddressPart where
  /-- No number in any of the three notations. -/
  | notANumber
  /-- A number of more than 32 bits. -/
  | tooLarge
  | number (n : Nat)
deriving DecidableEq

/-- Digits to a base, all of them, as a number. -/
def readBase (base : Nat) (digits : List Char) : AddressPart :=
  let value? (c : Char) : Option Nat := (Text.hexValue? c).filter (· < base)
  match digits.mapM value? with
  | none => .notANumber
  | some ds =>
    let n := ds.foldl (fun n d => n * base + d) 0
    if n < UInt32.size then .number n else .tooLarge

/--
A part of a four-part address: hexadecimal after `0x`, octal after another zero, else decimal.
-/
def readAddressPart : List Char → AddressPart
  | [] => .notANumber
  | '0' :: 'x' :: digits => readBase 16 digits
  | '0' :: 'X' :: digits => readBase 16 digits
  | '0' :: d :: digits => readBase 8 (d :: digits)
  | digits => readBase 10 digits

/-- The parts between the full stops, without an empty one at the end. -/
def dottedParts (host : List Char) : List (List Char) :=
  let parts := Text.split '.' host
  if 1 < parts.length ∧ parts.getLast? = some [] then parts.dropLast else parts

/-- Whether the last part makes a host a four-part address, well-formed or not. -/
def endsInNumber (host : List Char) : Bool :=
  match (dottedParts host).getLast? with
  | none => false
  | some last =>
    (last ≠ [] && last.all Char.isDigit) || readAddressPart last != .notANumber

/-- Whether a host is a four-part address.  Missing parts are taken up by the last one. -/
def isAddress4 (host : List Char) : Bool :=
  let parts := (dottedParts host).map readAddressPart
  parts.length ≤ 4 &&
    parts.dropLast.all (fun part => match part with | .number n => n < 256 | _ => false) &&
    match parts.getLast? with
    | some (.number n) => n < Nat.pow 256 (5 - parts.length)
    | _ => false

/-! ### Eight-part addresses -/

/-- Whether a text is a number below 256 in decimal notation, without leading zeros. -/
def isOctet (digits : List Char) : Bool :=
  digits ≠ [] && digits.length ≤ 3 && digits.all Char.isDigit &&
    (digits.head? ≠ some '0' || digits.length = 1) &&
    (digits.foldl (fun n c => n * 10 + (c.toNat - '0'.toNat)) 0) < 256

/-- Whether a text is one to four hexadecimal digits. -/
def isHexPiece (digits : List Char) : Bool :=
  digits ≠ [] && digits.length ≤ 4 && digits.all fun c => (Text.hexValue? c).isSome

/--
How many of the eight parts a list of pieces stands for, if it is well-formed.  The very last piece
of an address may be a four-part address, which stands for two.
-/
def countPieces (isEnd : Bool) : List (List Char) → Option Nat
  | [] => some 0
  | [piece] =>
    if isHexPiece piece then some 1
    else
      let octets := Text.split '.' piece
      if isEnd ∧ octets.length = 4 ∧ octets.all isOctet then some 2 else none
  | piece :: pieces => if isHexPiece piece then (countPieces isEnd pieces).map (· + 1) else none

/-- The pieces between colons; no text has no pieces. -/
def colonPieces (s : List Char) : List (List Char) := if s = [] then [] else Text.split ':' s

/-- The texts before and after the first two colons that stand together. -/
def splitDoubleColon : List Char → Option (List Char × List Char)
  | ':' :: ':' :: s => some ([], s)
  | [] => none
  | c :: s => (splitDoubleColon s).map fun (before, after) => (c :: before, after)

/-- Whether a text is an eight-part address, in which two colons may stand for zeros. -/
def isAddress8 (s : List Char) : Bool :=
  match splitDoubleColon s with
  | none => countPieces true (colonPieces s) == some 8
  | some (before, after) =>
    match countPieces false (colonPieces before), countPieces true (colonPieces after) with
    | some m, some n => m + n ≤ 7
    | _, _ => false

/-! ### Hosts -/

/-- Whether a text is the host of a web address. -/
def isHost : List Char → Bool
  | '[' :: s => s.getLast? == some ']' && isAddress8 s.dropLast
  | s =>
    match (Text.Utf8.decode? (percentDecode s)).bind Domain.normalize? with
    | none => false
    | some [] => false
    | some name => !endsInNumber name || isAddress4 name

end QueueDrain.Url
