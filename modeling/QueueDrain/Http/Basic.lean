/-!
Exchanges over HTTP, as far as a client sees them: what is asked, what comes back, and when.
-/

namespace QueueDrain.Http

/-- The methods that are used. -/
inductive Method where
  | get
  | post
deriving DecidableEq

def Method.name : Method → String
  | .get => "GET"
  | .post => "POST"

/-- A request without a body. -/
structure Request where
  method : Method
  url : String
deriving DecidableEq

/-- A response with its whole body. -/
structure Response where
  status : Nat
  body : List UInt8
deriving DecidableEq

/-- Whether the status says that the request was carried out. -/
def Response.isSuccess (response : Response) : Bool := 200 ≤ response.status ∧ response.status < 300

/-- What becomes of a request on the network. -/
inductive Transfer where
  /-- The response is complete after some milliseconds. -/
  | complete (afterMs : Nat) (response : Response)
  /-- The request fails after some milliseconds, before a response has begun. -/
  | unanswered (afterMs : Nat)
  /-- The connection breaks after some milliseconds, inside the body. -/
  | broken (afterMs : Nat)
  /-- The response never ends, or never begins. -/
  | endless
deriving DecidableEq

/-- What a client that waits for a limited time sees of a transfer. -/
inductive Delivery where
  | complete (response : Response)
  | unanswered
  | broken
  | late
deriving DecidableEq

/-- What is seen within a limit, and how long that takes. -/
def Transfer.within (limitMs : Nat) : Transfer → Nat × Delivery
  | .complete afterMs response =>
    if afterMs ≤ limitMs then (afterMs, .complete response) else (limitMs, .late)
  | .unanswered afterMs => if afterMs ≤ limitMs then (afterMs, .unanswered) else (limitMs, .late)
  | .broken afterMs => if afterMs ≤ limitMs then (afterMs, .broken) else (limitMs, .late)
  | .endless => (limitMs, .late)

/-- A network with a state: what becomes of a request that is made at a time. -/
abbrev Network (σ : Type) := Request → (time : Nat) → σ → Transfer × σ

end QueueDrain.Http
