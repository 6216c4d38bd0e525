import QueueDrain.Json.Number

/-!
JSON documents.

An object is a list of fields in ascending order of their keys, each key once; `Fields.insert` keeps
it so.  Keys are ordered as lists of code points, which is also the order of their UTF-8 bytes.
-/

namespace QueueDrain

/-- A JSON document. -/
inductive Json where
  | null
  | bool (b : Bool)
  | number (n : Json.Number)
  | string (s : String)
  | array (items : List Json)
  | object (fields : List (String × Json))

namespace Json

instance : Inhabited Json := ⟨.null⟩

/-- The fields of an object, ascending by key. -/
abbrev Fields := List (String × Json)

namespace Fields

/-- The fields with `key` bound to `value`, whatever it was bound to before. -/
def insert (key : String) (value : Json) : Fields → Fields
  | [] => [(key, value)]
  | (k, v) :: fields =>
    if key = k then (key, value) :: fields
    else if key < k then (key, value) :: (k, v) :: fields
    else (k, v) :: insert key value fields

/-- The value that `key` is bound to. -/
def get? (fields : Fields) (key : String) : Option Json := List.lookup key fields

/-- The first fields with the second ones put over them. -/
def merge (first second : Fields) : Fields :=
  second.foldl (fun fields (key, value) => insert key value fields) first

/-- Fields from a list in any order; of several bindings of one key the last counts. -/
def ofList (bindings : List (String × Json)) : Fields := merge [] bindings

end Fields

/-- An integer as a document. -/
def ofInt (n : Int) : Json := .number (.int n)

/-- A natural number as a document. -/
def ofNat (n : Nat) : Json := .number (.int n)

/-- A double as a document; what is not finite becomes null. -/
def ofFloat (x : Binary64) : Json := if x.isFinite then .number (.float x) else .null

def ofBindings (bindings : List (String × Json)) : Json := .object (Fields.ofList bindings)

/-- The number, if the document is one. -/
def number? : Json → Option Number
  | .number n => some n
  | _ => none

/-- The text, if the document is one. -/
def string? : Json → Option String
  | .string s => some s
  | _ => none

def object? : Json → Option Fields
  | .object fields => some fields
  | _ => none

/-- The items, if the document is an array. -/
def array? : Json → Option (List Json)
  | .array items => some items
  | _ => none

end Json

end QueueDrain
