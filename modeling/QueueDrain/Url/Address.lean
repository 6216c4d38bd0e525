import QueueDrain.Url.Host

/-!
Web addresses: which texts a lenient reader of URLs takes for an absolute `http` or `https` address.

The reader ignores blanks and controls around the address and line ends and tabs inside it, takes
backslashes for slashes and any number of them before the host, and accepts whatever follows the
host and the port.
-/

namespace QueueDrain.Url

/-- A text without blanks and controls at its ends, and without tabs and line ends. -/
def strip (s : List Char) : List Char :=
  (Text.trimEndWhere (· ≤ ' ') (s.dropWhile (· ≤ ' '))).filter fun c =>
    c != '\t' && c != '\n' && c != '\r'

def isLetter (c : Char) : Bool := ('a' ≤ c && c ≤ 'z') || ('A' ≤ c && c ≤ 'Z')

/-- Whether a character may stand in a scheme, after the first letter. -/
def isSchemeChar (c : Char) : Bool := isLetter c || c.isDigit || c == '+' || c == '-' || c == '.'

/-- The scheme in lower case, and what follows its colon. -/
def scheme? (s : List Char) : Option (List Char × List Char) :=
  match s.span isSchemeChar with
  | (c :: name, ':' :: rest) =>
    if isLetter c then some ((c :: name).map Char.toLower, rest) else none
  | _ => none

/-- Whether a character separates directories. -/
def isSlash (c : Char) : Bool := c == '/' || c == '\\'

/-- Whether a character ends the part of an address that names host and port. -/
def endsAuthority (c : Char) : Bool := isSlash c || c == '?' || c == '#'

/-- The host and the port of an authority without user, at the first colon outside brackets. -/
def splitPort (bracketed : Bool) : List Char → List Char × Option (List Char)
  | [] => ([], none)
  | c :: s =>
    if c = ':' ∧ !bracketed then ([], some s)
    else
      let (host, port) := splitPort (c = '[' || (bracketed && c != ']')) s
      (c :: host, port)

/-- Whether a text is a port: digits, perhaps none, of 16 bits. -/
def isPort (digits : List Char) : Bool :=
  digits.all Char.isDigit &&
    (digits.foldl (fun n c => n * 10 + (c.toNat - '0'.toNat)) 0) < UInt16.size

/-- An authority without the user, which ends at the last at sign. -/
def dropUser (authority : List Char) : List Char :=
  (authority.reverse.takeWhile (· != '@')).reverse

/-- The scheme of an absolute `http` or `https` address. -/
def webScheme? (s : List Char) : Option (List Char) :=
  (scheme? (strip s)).bind fun (scheme, rest) =>
    let authority := (rest.dropWhile isSlash).takeWhile (!endsAuthority ·)
    let (host, port) := splitPort false (dropUser authority)
    if (scheme = "http".toList || scheme = "https".toList) && host ≠ [] && isHost host &&
      port.all isPort then some scheme else none

end QueueDrain.Url
