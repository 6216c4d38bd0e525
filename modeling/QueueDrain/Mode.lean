/-!
How a batch of jobs is dispatched, and which of the dispatch modes a benchmark profile compares.
-/

namespace QueueDrain

/-- A dispatch strategy of the system under test. -/
inductive Mode where
  | async
  | asyncAll
  | sync
  | syncAll
deriving DecidableEq

namespace Mode

def all : List Mode := [.async, .asyncAll, .sync, .syncAll]

/-- The name of a mode in inputs and outputs. -/
def name : Mode → String
  | .async => "async"
  | .asyncAll => "async-all"
  | .sync => "sync"
  | .syncAll => "sync-all"

/-- The mode with exactly this name. -/
def ofName? (s : String) : Option Mode := all.find? (·.name == s)

/-- The path of the request that dispatches the seeded jobs in this mode. -/
def path : Mode → String
  | .async => "/lab/run"
  | .asyncAll => "/lab/run-all"
  | .sync => "/lab/run-sync"
  | .syncAll => "/lab/run-sync-all"

end Mode

/-- The matrix that a benchmark runs. -/
inductive Profile where
  /-- Asynchronous against synchronous drains, without heap samples. -/
  | flow
  /-- All four dispatch modes, with heap samples. -/
  | memory
deriving DecidableEq

namespace Profile

/-- Both profiles. -/
def all : List Profile := [.flow, .memory]

/-- The name of a profile in inputs and outputs. -/
def name : Profile → String
  | .flow => "flow"
  | .memory => "memory"

/-- The profile with exactly this name. -/
def ofName? (s : String) : Option Profile := all.find? (·.name == s)

/-- The modes that run when none are chosen. -/
def defaultModes : Profile → List Mode
  | .flow => [.async, .sync]
  | .memory => [.async, .asyncAll, .sync, .syncAll]

/-- Whether a mode may be chosen. -/
def allows : Profile → Mode → Bool
  | .flow, m => m = .async ∨ m = .sync
  | .memory, _ => true

/-- Whether the heap is sampled unless the inputs say otherwise. -/
def samplesHeap : Profile → Bool
  | .flow => false
  | .memory => true

end Profile

end QueueDrain
