/-!
Readers of addresses, as the program is built on them.

Settings are checked by a lenient reader and requests are made by a strict one.  Neither is a part
of the program: a run takes them as they come (`Readers`), and what is shown of it is shown for any
two readers, or for any two that keep to the rules of addresses.
-/

namespace QueueDrain.Url

/-- The two readers of addresses. -/
structure Readers where
  /-- The scheme of the absolute address that the lenient reader finds in a text, in lower case. -/
  scheme? (s : String) : Option String
  /-- Whether the strict reader takes a text for the target of a request. -/
  isTarget (s : String) : Bool

/-- Whether the lenient reader finds an `http` or `https` address in a text. -/
def Readers.isWeb (urls : Readers) (s : String) : Bool :=
  match urls.scheme? s with
  | some scheme => scheme == "http" || scheme == "https"
  | none => false

end QueueDrain.Url
