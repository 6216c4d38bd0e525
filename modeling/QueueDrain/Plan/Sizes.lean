import QueueDrain.Plan.Basic
import QueueDrain.Text.Blank
import QueueDrain.Text.Integer

/-!
The lists of a plan: workload sizes, from a list or a range, and modes.

A list is comma-separated; blanks around its parts and parts that are blank are skipped, order and
repetitions are kept, and the leftmost faulty part decides the refusal.
-/

namespace QueueDrain.Plan

/-- A size has to be positive. -/
def positiveItems (n : Int) : Except Refusal Nat :=
  if 0 < n then .ok n.toNat else .error (.nonPositiveItems n)

/-- One part of a list of sizes. -/
def parseItem (part : List Char) : Except Refusal Nat :=
  match Text.readInt64 part with
  | .error _ => .error (.item (String.ofList part))
  | .ok n => positiveItems n

/-- A comma-separated list of sizes. -/
def parseItemsList (raw : String) : Except Refusal (List Nat) := do
  match ← (Text.listParts raw.toList).mapM parseItem with
  | [] => .error .noItems
  | items => .ok items

/--
The sizes of a range that are still to come: of the numbers from `next` on, `skip` are passed over
before the next size, and `gap` between two sizes.  A number that has more than 64 bits is beyond
every end.
-/
def walk (stop : Int) (gap : Nat) (next : Int) (skip : Nat) : Except Refusal (List Nat) :=
  if Text.int64Limit ≤ next + skip ∨ stop < next + skip then .ok []
  else if next + skip = stop then (positiveItems (next + skip)).map ([·])
  else
    match positiveItems (next + skip) with
    | .error e => .error e
    | .ok size => (walk stop gap (next + skip + 1) gap).map (size :: ·)
termination_by (stop - next).toNat

/-- The sizes from `start` to at most `stop`, `step` apart. -/
def itemsRange (start stop step : Int) : Except Refusal (List Nat) :=
  if step ≤ 0 then .error .step
  else if stop < start then .error .range
  else walk stop (step.toNat - 1) start 0

def parseMode (part : List Char) : Except Refusal Mode :=
  match Mode.ofName? (String.ofList part) with
  | none => .error (.unknownMode (String.ofList part))
  | some mode => .ok mode

/-- A comma-separated list of modes. -/
def parseModes (raw : String) : Except Refusal (List Mode) := do
  match ← (Text.listParts raw.toList).mapM parseMode with
  | [] => .error .noModes
  | modes => .ok modes

end QueueDrain.Plan
