import QueueDrain.Text.Blank
import QueueDrain.Text.Integer
import QueueDrain.Text.Utf8

/-!
Percent signs in addresses, and the names and values of a query.

In an address a percent sign and two hexadecimal digits stand for a byte.  A query is a list of
`name=value` between ampersands in which, besides, a plus sign stands for a blank.
-/

namespace QueueDrain.Url

/-- The bytes of a text in which a percent sign and two hexadecimal digits stand for a byte. -/
def percentDecode : List Char → List UInt8
  | [] => []
  | '%' :: a :: b :: s =>
    match Text.hexValue? a, Text.hexValue? b with
    | some hi, some lo => UInt8.ofNat (hi * 16 + lo) :: percentDecode s
    | _, _ => '%'.toNat.toUInt8 :: percentDecode (a :: b :: s)
  | c :: s => Text.Utf8.encode [c] ++ percentDecode s

/-- A text before the first equals sign, and the text after it. -/
def splitAtEquals (s : List Char) : List Char × List Char :=
  match s.span (· != '=') with
  | (name, []) => (name, [])
  | (name, _ :: value) => (name, value)

/-- A name or a value of a query, with U+FFFD for what is no UTF-8. -/
def decodeComponent (s : List Char) : List Char :=
  Text.Utf8.decodeLossy (percentDecode (s.map fun c => if c = '+' then ' ' else c))

/-- The names and values of a query, in order. -/
def queryPairs (query : List Char) : List (List Char × List Char) :=
  ((Text.split '&' query).filter (· ≠ [])).map fun part =>
    let (name, value) := splitAtEquals part
    (decodeComponent name, decodeComponent value)

/-- The value of a name in a query, the last one if there are several. -/
def queryValue? (query : List Char) (name : List Char) : Option (List Char) :=
  (queryPairs query).reverse.lookup name

end QueueDrain.Url
