import QueueDrain.Text.Blank
import QueueDrain.Url.Domain.Direction
import QueueDrain.Url.Domain.Joiner
import QueueDrain.Url.Domain.Punycode

/-!
Domain names: which texts name a domain, and their form in lower-case ASCII.

A name is mapped character by character, cut at its full stops, and each of its parts is checked.  A
part that starts with `xn--` is Punycode for a part with characters outside ASCII.  Parts may be
empty.

Design notes: only ASCII names are mapped to what they stand for.  Of the characters outside ASCII
those that stand for text of another kind are replaced by text of that kind, and the others stay as
they are written.  Characters are not composed, except where a composed character is well-formed and
its parts are not; so Punycode for characters that could be composed is let through.
-/

namespace QueueDrain.Url.Domain

/-- The ASCII characters that no domain name holds: controls, the blank, and marks of URLs. -/
def isForbidden (c : Char) : Bool := c ≤ ' ' || c == '\x7f' || "%#/:<>?@[\\]^|".toList.contains c

/-- The ASCII text that a character outside ASCII stands for. -/
def asciiText? (c : Char) : Option (List Char) :=
  match asciiRuns.find? fun (lo, hi, _) => lo ≤ c.toNat && c.toNat ≤ hi with
  | some (lo, _, first) => some [Char.ofNat (first + (c.toNat - lo))]
  | none =>
    if c.toNat = 0x3002 then some ['.']
    else (asciiTexts.lookup c.toNat).map String.toList

/-- Text of the kind of that for which a character outside ASCII stands. -/
def standIn? (c : Char) : Option (List Char) :=
  (standIns.find? fun (lo, hi, _) => lo ≤ c.toNat && c.toNat ≤ hi).map fun (_, _, text) =>
    text.toList

/-- What a character of a name is replaced by; `none` if no name may hold it. -/
def mapChar? (c : Char) : Option (List Char) :=
  if c.toNat < 0x80 then some [c.toLower]
  else if inRanges refusedRanges c.toNat then none
  else if inRanges ignoredRanges c.toNat then some []
  else some (((asciiText? c).or (standIn? c)).getD [c])

/-- Angle brackets that are struck through become signs of their own. -/
def strike : List Char → List Char
  | '<' :: '\u0338' :: s => '\u226e' :: strike s
  | '>' :: '\u0338' :: s => '\u226f' :: strike s
  | c :: s => c :: strike s
  | [] => []

/-- Whether a character stands for text that is not ASCII and not the character. -/
def isMapped (c : Char) : Bool :=
  mappedRuns.any fun (lo, hi, step) => lo ≤ c.toNat && c.toNat ≤ hi && (c.toNat - lo) % step == 0

/-- Whether a character stands for itself. -/
def isPlain (c : Char) : Bool := mapChar? c == some [c] && !isMapped c

/-- Whether a part of a name may be written with these characters. -/
def isLabel (label : List Char) : Bool :=
  !(label.any isForbidden) && !(label.head?.any (inRanges markRanges ·.toNat)) &&
    areJoinersAllowed [] label

/-- The part of a name that the text after `xn--` stands for, if it needs to be encoded. -/
def decodedLabel? (code : List Char) : Option (List Char) :=
  if code.all (·.toNat < 0x80) then
    (Punycode.decode? code).filter fun label => label.any (0x80 ≤ ·.toNat) && label.all isPlain
  else none

/-- The characters of a part of a name, after the mapping; `none` if it is not well-formed. -/
def label? (part : List Char) : Option (List Char) :=
  let decoded :=
    match part with
    | 'x' :: 'n' :: '-' :: '-' :: code => decodedLabel? code
    | part => some part
  decoded.filter isLabel

/-- The name after the mapping, if it is well-formed; all its parts may be empty. -/
def normalize? (name : List Char) : Option (List Char) :=
  match name.mapM mapChar? with
  | none => none
  | some texts =>
    let name := strike texts.flatten
    match (Text.split '.' name).mapM label? with
    | none => none
    | some labels => if areDirected labels then some name else none

end QueueDrain.Url.Domain
