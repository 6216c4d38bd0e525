import QueueDrain.Json.Basic
import QueueDrain.Json.Token
import QueueDrain.Text.Utf8

/-!
Reading JSON documents.

The reader goes over the tokens once and keeps a stack of the arrays and objects that are still open
(`Frame`), so it recurses on the list of tokens alone.  It gives the document as it is written
(`parseRaw?`): every field of an object in its place, and no bound on numbers and nesting.

`parse?` admits a document only if its numbers are finite and it is nested no deeper than
`nestingLimit`, and puts the fields of its objects in order; of several fields of one key the last
counts.
-/

namespace QueueDrain.Json

/-- What may come next inside an array or an object that is open. -/
inductive Place where
  /-- At the start, where it may also be closed. -/
  | start
  /-- After a comma, where an item or a field has to follow. -/
  | afterComma
  /-- After an item or a field, where a comma or the end has to follow. -/
  | afterValue

/--
An array or an object that is still open, with what has been read so far, the last part first.
-/
inductive Frame where
  | array (items : List Json) (place : Place)
  /-- An object, between fields. -/
  | object (fields : List (String × Json)) (place : Place)
  /-- An object that waits for the colon after a key. -/
  | key (fields : List (String × Json)) (key : String)
  /-- An object that waits for the value of a key. -/
  | value (fields : List (String × Json)) (key : String)

/--
Where the reader is: before the document, inside it with the innermost frame first, or after it.
-/
inductive Reading where
  | before
  | inside (frame : Frame) (outer : List Frame)
  | done (document : Json)

namespace Reading

/-- Puts a complete value where a value is expected. -/
def put (v : Json) : Reading → Option Reading
  | before => some (.done v)
  | inside (.array items .start) outer => some (.inside (.array (v :: items) .afterValue) outer)
  | inside (.array items .afterComma) outer =>
    some (.inside (.array (v :: items) .afterValue) outer)
  | inside (.value fields key) outer =>
    some (.inside (.object ((key, v) :: fields) .afterValue) outer)
  | _ => none

/-- Opens an array or an object where a value is expected. -/
def enter (frame : Frame) : Reading → Option Reading
  | before => some (.inside frame [])
  | inside (.array items .start) outer => some (.inside frame (.array items .start :: outer))
  | inside (.array items .afterComma) outer =>
    some (.inside frame (.array items .afterComma :: outer))
  | inside (.value fields key) outer => some (.inside frame (.value fields key :: outer))
  | _ => none

/-- Closes the innermost frame, whose value is `v`. -/
def leave (v : Json) : List Frame → Option Reading
  | [] => some (.done v)
  | frame :: outer => put v (.inside frame outer)

/-- Takes one token. -/
def step (r : Reading) : Token → Option Reading
  | .openArray => r.enter (.array [] .start)
  | .openObject => r.enter (.object [] .start)
  | .closeArray =>
    match r with
    | inside (.array items .start) outer => leave (.array items.reverse) outer
    | inside (.array items .afterValue) outer => leave (.array items.reverse) outer
    | _ => none
  | .closeObject =>
    match r with
    | inside (.object fields .start) outer => leave (.object fields.reverse) outer
    | inside (.object fields .afterValue) outer => leave (.object fields.reverse) outer
    | _ => none
  | .comma =>
    match r with
    | inside (.array items .afterValue) outer => some (.inside (.array items .afterComma) outer)
    | inside (.object fields .afterValue) outer => some (.inside (.object fields .afterComma) outer)
    | _ => none
  | .colon =>
    match r with
    | inside (.key fields key) outer => some (.inside (.value fields key) outer)
    | _ => none
  | .null => r.put .null
  | .bool b => r.put (.bool b)
  | .number n => r.put (.number n)
  | .string s =>
    match r with
    | inside (.object fields .start) outer => some (.inside (.key fields s) outer)
    | inside (.object fields .afterComma) outer => some (.inside (.key fields s) outer)
    | r => r.put (.string s)

/-- Takes tokens one after the other. -/
def run (r : Reading) : List Token → Option Reading
  | [] => some r
  | token :: tokens => (r.step token).bind (run · tokens)

end Reading

/-- The document that a list of tokens spells, as it is written. -/
def ofTokens? (tokens : List Token) : Option Json :=
  match Reading.before.run tokens with
  | some (.done v) => some v
  | _ => none

/-- The document that a text spells, as it is written. -/
def parseRaw? (s : List Char) : Option Json := (tokens? s).bind ofTokens?

/-! ### Admission -/

/-- The number of arrays and objects that may be inside each other. -/
def nestingLimit : Nat := 127

mutual

/--
A document with its fields in order, if its numbers are finite and its nesting is within a limit.
-/
def admit? : (limit : Nat) → Json → Option Json
  | _, .null => some .null
  | _, .bool b => some (.bool b)
  | _, .number (.int n) => some (.number (.int n))
  | _, .number (.float x) => if x.isFinite then some (.number (.float x)) else none
  | _, .string s => some (.string s)
  | 0, .array _ => none
  | limit + 1, .array items => (admitItems? limit items).map .array
  | 0, .object _ => none
  | limit + 1, .object fields => (admitFields? limit fields).map ofBindings

/-- All items, if each of them is admitted. -/
def admitItems? : (limit : Nat) → List Json → Option (List Json)
  | _, [] => some []
  | limit, v :: items =>
    match admit? limit v, admitItems? limit items with
    | some v, some items => some (v :: items)
    | _, _ => none

/-- All fields, if the value of each of them is admitted. -/
def admitFields? : (limit : Nat) → List (String × Json) → Option (List (String × Json))
  | _, [] => some []
  | limit, (key, v) :: fields =>
    match admit? limit v, admitFields? limit fields with
    | some v, some fields => some ((key, v) :: fields)
    | _, _ => none

end

/-- The document that a text spells. -/
def parse? (s : List Char) : Option Json := (parseRaw? s).bind (admit? nestingLimit)

/-- The document that bytes spell; they have to be UTF-8. -/
def parseBytes? (bytes : List UInt8) : Option Json := (Text.Utf8.decode? bytes).bind parse?

end QueueDrain.Json
