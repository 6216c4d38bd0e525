import QueueDrain.Json.Printer

/-!
JSON values as cells of a table.
-/

namespace QueueDrain.Json

/-- The text of a value in a cell: nothing for null, strings as they are, all else as JSON. -/
def cell : Json → String
  | .null => ""
  | .string s => s
  | v => v.text

end QueueDrain.Json
