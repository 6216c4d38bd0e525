import QueueDrain.Bench.Session
import QueueDrain.Heap.Measurement
import QueueDrain.Http.Basic
import QueueDrain.Text.Blank
import QueueDrain.Url.Readers

/-!
The client of the system under test: which request each call makes, and what the response to it
means.

A call that fails on the way ends with an error, and so does a refused command or report.  A gauge
that cannot be read is no error, there is just no value; only a gauge that cannot be reached is.
-/

namespace QueueDrain

def Command.path : Command → String
  | .reset => "/lab/report/reset"
  | .seed items => "/lab/seed?items=" ++ toString items
  | .dispatch mode => mode.path

/-- A client: where its requests go, and how long it waits for responses. -/
structure Client where
  baseUrl : String
  controlTimeoutMs : Nat
  metricTimeoutMs : Nat
  urls : Url.Readers

namespace Client

/-- The client for a base address, which may end with slashes. -/
def withTimeouts (urls : Url.Readers) (baseUrl : String) (controlTimeoutMs metricTimeoutMs : Nat) :
    Client where
  baseUrl := String.ofList (Text.trimEndWhere (· == '/') baseUrl.toList)
  controlTimeoutMs := controlTimeoutMs
  metricTimeoutMs := metricTimeoutMs
  urls := urls

def ofPlan (urls : Url.Readers) (plan : Plan) : Client :=
  withTimeouts urls plan.baseUrl plan.controlTimeoutMs plan.metricTimeoutMs

variable (client : Client)

/-! ### Requests -/

def commandRequest (c : Command) : Http.Request := ⟨.post, client.baseUrl ++ c.path⟩

def reportRequest : Http.Request := ⟨.get, client.baseUrl ++ "/lab/report"⟩

/-- The request for a gauge. -/
def metricRequest (metric : Heap.Metric) : Http.Request :=
  ⟨.get, client.baseUrl ++ "/actuator/metrics/" ++ metric.gaugeName ++ "?tag=area:heap"⟩

/-! ### Responses -/

/-- The response that was delivered, or the error if there is none. -/
def delivered (limitMs : Nat) : Http.Delivery → Except Error Http.Response
  | .complete response => .ok response
  | .unanswered => .error .request
  | .broken => .error .bodyRead
  | .late => .error (.timeout (.ofMillis limitMs))

def bodyText (response : Http.Response) : String :=
  String.ofList (Text.Utf8.decodeLossy response.body)

def refused (phase : Phase) (request : Http.Request) (response : Http.Response) : Error :=
  .controlRequest phase request.method.name request.url response.status (bodyText response)

/-- What the response to a command means. -/
def commandOutcome (c : Command) (request : Http.Request) (response : Http.Response) :
    Except Error Unit :=
  if response.isSuccess then .ok () else .error (refused c.phase request response)

/-- What the response to a request for a report means. -/
def reportOutcome (request : Http.Request) (response : Http.Response) : Except Error Report :=
  if response.status = 200 then
    match (Json.parseBytes? response.body).bind Json.object? with
    | some fields => .ok ⟨fields⟩
    | none => .error (.invalidReport request.url (bodyText response))
  else .error (refused .report request response)

/-- The value of the gauge that a response shows. -/
def metricValue? (response : Http.Response) : Option Binary64 :=
  if response.isSuccess then Heap.readGaugeBody? response.body else none

/-! ### Calls -/

section

variable {m : Type → Type} [Monad m] (exchange : Http.Request → Nat → m Http.Delivery)

/-- Sends a request and waits for the response, unless the address is malformed. -/
def send (limitMs : Nat) (request : Http.Request) : m (Except Error Http.Response) :=
  if client.urls.isTarget request.url then do
    return delivered limitMs (← exchange request limitMs)
  else return .error (.invalidUrl request.url)

/-- Sends a command. -/
def command (c : Command) : m (Except Error Unit) := do
  let request := client.commandRequest c
  return (← client.send exchange client.controlTimeoutMs request) >>= commandOutcome c request

/-- Asks for a report. -/
def report : m (Except Error Report) := do
  let request := client.reportRequest
  return (← client.send exchange client.controlTimeoutMs request) >>= reportOutcome request

/-- Asks for a metric. -/
def metric (metric : Heap.Metric) : m (Except Error (Option Binary64)) := do
  let request := client.metricRequest metric
  return (← client.send exchange client.metricTimeoutMs request).map metricValue?

end

end Client

end QueueDrain
