import QueueDrain.Url.Host

/-!
Socket addresses: an address of one of the two internet protocols, written in full, and a port.
-/

namespace QueueDrain.Url

/-- Whether a text is a four-part address in decimal notation, without leading zeros. -/
def isStrictAddress4 (s : List Char) : Bool :=
  let octets := Text.split '.' s
  octets.length = 4 && octets.all isOctet

/-- Whether a text is a number of at least one digit, below a bound. -/
def isNumberBelow (bound : Nat) (digits : List Char) : Bool :=
  digits ≠ [] && digits.all Char.isDigit &&
    (digits.foldl (fun n c => n * 10 + (c.toNat - '0'.toNat)) 0) < bound

/-- Whether a text is a colon and a port. -/
def isPortSuffix : List Char → Bool
  | ':' :: digits => isNumberBelow UInt16.size digits
  | _ => false

/-- Whether a text is an eight-part address, perhaps with a numbered zone after a percent sign. -/
def isZonedAddress8 (s : List Char) : Bool :=
  match s.span (· != '%') with
  | (address, []) => isAddress8 address
  | (address, _ :: zone) => isAddress8 address && isNumberBelow UInt32.size zone

/-- Whether a text is a socket address; an eight-part address stands in brackets. -/
def isSocketAddress : List Char → Bool
  | '[' :: s =>
    match s.span (· != ']') with
    | (_, []) => false
    | (address, _ :: port) => isZonedAddress8 address && isPortSuffix port
  | s =>
    let (address, port) := s.span (· != ':')
    isStrictAddress4 address && isPortSuffix port

end QueueDrain.Url
