import QueueDrain.Http.Virtual

/-!
What a client finds on a network, call by call.

Every call makes one request and gives the response a meaning (`call`); nothing is sent to what is
no address.  The commands, the reports and the metrics of a target on a network are such calls.
-/

namespace QueueDrain.Client

variable {σ : Type} (client : Client) (network : Http.Network σ)

/-- One request that is made at a time, and what its response means. -/
def call {α : Type} (limitMs : Nat) (request : Http.Request)
    (outcome : Except Error Http.Response → Except Error α) (time : Nat) (state : σ) :
    Reply α × σ :=
  if client.urls.isTarget request.url then
    (⟨((network request time state).1.within limitMs).1,
      outcome (delivered limitMs ((network request time state).1.within limitMs).2)⟩,
      (network request time state).2)
  else (⟨0, outcome (.error (.invalidUrl request.url))⟩, state)

theorem send_eq (time limitMs : Nat) (request : Http.Request) (state : σ) (spent : Nat) :
    client.send (network.exchange time) limitMs request (state, spent) =
      if client.urls.isTarget request.url then
        let (transfer, state) := network request (time + spent) state
        (delivered limitMs (transfer.within limitMs).2,
          (state, spent + (transfer.within limitMs).1))
      else (.error (.invalidUrl request.url), (state, spent)) := by
  rw [send]
  by_cases haddress : client.urls.isTarget request.url
  · rw [if_pos haddress, if_pos haddress]
    rfl
  · rw [if_neg haddress, if_neg haddress]
    rfl

theorem reply_send {α : Type} (time limitMs : Nat) (request : Http.Request)
    (outcome : Except Error Http.Response → Except Error α) (state : σ) :
    reply (do return outcome (← client.send (network.exchange time) limitMs request)) state =
      client.call network limitMs request outcome time state := by
  have happly : (do return outcome (← client.send (network.exchange time) limitMs request) :
      StateM (σ × Nat) (Except Error α)) (state, 0) =
      (outcome (client.send (network.exchange time) limitMs request (state, 0)).1,
        (client.send (network.exchange time) limitMs request (state, 0)).2) := rfl
  rw [reply, happly, send_eq, call]
  by_cases haddress : client.urls.isTarget request.url
  · rw [if_pos haddress, if_pos haddress]
    dsimp only
    rw [Nat.zero_add, Nat.add_zero]
  · rw [if_neg haddress, if_neg haddress]

/-- **A command** is a call. -/
theorem target_command (c : Command) (time : Nat) (state : σ) :
    (client.target network).command c time state =
      client.call network client.controlTimeoutMs (client.commandRequest c)
        (· >>= commandOutcome c (client.commandRequest c)) time state := by
  rw [target]
  exact client.reply_send network time client.controlTimeoutMs (client.commandRequest c)
    (· >>= commandOutcome c (client.commandRequest c)) state

/-- **A request for a report** is a call. -/
theorem target_report (time : Nat) (state : σ) :
    (client.target network).report time state =
      client.call network client.controlTimeoutMs client.reportRequest
        (· >>= reportOutcome client.reportRequest) time state := by
  rw [target]
  exact client.reply_send network time client.controlTimeoutMs client.reportRequest
    (· >>= reportOutcome client.reportRequest) state

/-- **A request for a metric** is a call, of which only the sample is seen. -/
theorem target_metric (metric : Heap.Metric) (time : Nat) (state : σ) :
    (client.target network).metric metric time state =
      Prod.map (fun r : Reply (Option Binary64) => ⟨r.delayMs, sample r.outcome⟩) id
        (client.call network client.metricTimeoutMs (client.metricRequest metric)
          (·.map metricValue?) time state) := by
  rw [← reply_send]
  rfl

end QueueDrain.Client
