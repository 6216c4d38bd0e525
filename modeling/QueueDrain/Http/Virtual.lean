import QueueDrain.Client

/-!
A client on a virtual clock: its target is whatever answers on a network with a state.
-/

namespace QueueDrain

namespace Http

/-- A network on which nothing can be reached. -/
def unreachable {σ : Type} : Network σ := fun _ _ state => (.unanswered 0, state)

/--
Sends a request at a time, and waits for a limited time.  The state is that of the network and the
time that has been spent.
-/
def Network.exchange {σ : Type} (network : Network σ) (time : Nat) (request : Request)
    (limitMs : Nat) : StateM (σ × Nat) Delivery := fun (state, spent) =>
  let (transfer, state) := network request (time + spent) state
  let (ms, delivery) := transfer.within limitMs
  (delivery, (state, spent + ms))

end Http

namespace Client

variable {σ : Type}

/-- What a call to a network brings, how long it takes, and what it changes. -/
def reply {α : Type} (call : StateM (σ × Nat) (Except Error α)) (state : σ) : Reply α × σ :=
  let (outcome, state, spent) := call (state, 0)
  (⟨spent, outcome⟩, state)

/-- The sample that a call for a metric brings; a call that fails brings none. -/
def sample : Except Error (Option Binary64) → Heap.Sample
  | .ok (some x) => .value x
  | _ => .missing

/-- The system under test that a client finds on a network. -/
def target (client : Client) (network : Http.Network σ) : Target σ where
  command c time state := reply (client.command (network.exchange time) c) state
  report time state := reply (client.report (network.exchange time)) state
  metric metric time state :=
    let (r, state) := reply (client.metric (network.exchange time) metric) state
    (⟨r.delayMs, sample r.outcome⟩, state)

end Client

end QueueDrain
