import QueueDrain.Bench.Session

/-!
Targets that follow a script: the n-th request of a kind gets the n-th answer of that kind, whatever
happens in between.
-/

namespace QueueDrain

/--
What a target answers to each kind of request, by the number of the request counted from zero.
-/
structure Script where
  command : Phase → Nat → Reply Unit
  report : Nat → Reply Report
  metric : Heap.Metric → Nat → Heap.SampleReply

/-- How many requests of each kind there have been. -/
structure Script.Position where
  reset : Nat := 0
  seed : Nat := 0
  dispatch : Nat := 0
  report : Nat := 0
  metrics : Heap.Counts := {}
deriving DecidableEq

namespace Script

namespace Position

/-- How many requests of a phase there have been. -/
def get (position : Position) : Phase → Nat
  | .reset => position.reset
  | .seed => position.seed
  | .dispatch => position.dispatch
  | .report => position.report

/-- The position after one request more. -/
def add (position : Position) : Phase → Position
  | .reset => { position with reset := position.reset + 1 }
  | .seed => { position with seed := position.seed + 1 }
  | .dispatch => { position with dispatch := position.dispatch + 1 }
  | .report => { position with report := position.report + 1 }

end Position

def target (script : Script) : Target Position where
  command c _ position := (script.command c.phase (position.get c.phase), position.add c.phase)
  report _ position := (script.report position.report, position.add .report)
  metric metric time position :=
    let (reply, counts) := Heap.Source.ofScript script.metric metric time position.metrics
    (reply, { position with metrics := counts })

end Script

end QueueDrain
