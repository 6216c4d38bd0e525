/-!
Comma-separated values: records of fields, one record a line.

A field is quoted exactly when it holds a comma, a quote or a line end, and a quote inside a quoted
field is written twice.
-/

namespace QueueDrain.Csv

/-- Whether a character forces its field into quotes. -/
def needsQuotes (c : Char) : Bool := c == ',' || c == '"' || c == '\n' || c == '\r'

/-- The characters of a field inside quotes: quotes twice, all others once. -/
def double (s : List Char) : List Char := s.flatMap fun c => if c = '"' then ['"', '"'] else [c]

def writeField (s : List Char) : List Char :=
  if s.any needsQuotes then '"' :: (double s ++ ['"']) else s

/-- A record as it is written, with the line end. -/
def writeRecord : List (List Char) → List Char
  | [] => ['\n']
  | [s] => writeField s ++ ['\n']
  | s :: t :: fields => writeField s ++ ',' :: writeRecord (t :: fields)

/-- The text of records. -/
def write (records : List (List String)) : String :=
  String.ofList (records.flatMap fun record => writeRecord (record.map String.toList))

end QueueDrain.Csv
