import QueueDrain.Heap.Summary
import QueueDrain.Json.Sketch

/-!
Reading a gauge of the system under test.

The body of a gauge is a record with a list of `measurements`, each of them a record with a `value`;
the first value is the one that counts.  A record is an object, in which a known key may occur once
and the values of other keys are not looked at, or an array of the values of its known keys.  A body
that is anything else, in any of its measurements, has no value.

Only what is looked at has to be legible, so gauges are read from sketches.
-/

namespace QueueDrain.Heap

def Metric.gaugeName (metric : Metric) : String := "jvm.memory." ++ metric.name

/-- The fields of a record of a sketch, if all of their keys are legible. -/
def legible? (fields : List (String × Json)) : Option (List (String × Json)) :=
  fields.mapM fun (lexeme, value) => (Json.Lexeme.read? lexeme).map (·, value)

/-- The values of a key in an object, in the order in which they are written. -/
def valuesOf (key : String) (fields : List (String × Json)) : List Json :=
  (fields.filter (·.1 = key)).map (·.2)

/-- A value of a measurement: a finite number, or null. -/
def readValue? : Json → Option (Option Binary64)
  | .null => some none
  | .number n => if n.toFloat.isFinite then some (some n.toFloat) else none
  | _ => none

/-- The value of a measurement, which an object may leave out. -/
def readMeasurement? : Json → Option (Option Binary64)
  | .object fields =>
    match (legible? fields).map (valuesOf "value") with
    | some [] => some none
    | some [v] => readValue? v
    | _ => none
  | .array [v] => readValue? v
  | _ => none

/-- The measurements of a gauge; none if the key is left out. -/
def measurements? : Json → Option (List Json)
  | .object fields =>
    match (legible? fields).map (valuesOf "measurements") with
    | some [] => some []
    | some [.array items] => some items
    | _ => none
  | .array [] => some []
  | .array [.array items] => some items
  | _ => none

/-- The value of the first measurement of a gauge. -/
def readGauge? (gauge : Json) : Option Binary64 := do
  let values ← (← measurements? gauge).mapM readMeasurement?
  values.head?.join

/-- The value that the body of a gauge shows. -/
def readGaugeBody? (bytes : List UInt8) : Option Binary64 := (Json.sketch? bytes).bind readGauge?

end QueueDrain.Heap
