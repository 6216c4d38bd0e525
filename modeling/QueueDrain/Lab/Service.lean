import QueueDrain.Heap.Summary
import QueueDrain.Json.Printer
import QueueDrain.Lab.Basic
import QueueDrain.Url.Percent

/-!
The lab as a service: which request leads where (`Route`), and what is answered (`Lab.respond`).

A path has to match exactly, only the last part of a gauge's path is a name, which may be written
with percent signs.  Where an endpoint can be read, its head can be asked for too: that does the
same and answers with an empty body.
-/

namespace QueueDrain

/-- How often each endpoint of a lab was asked. -/
structure Lab.Counters where
  resets : Nat := 0
  seeds : Nat := 0
  dispatches : Nat := 0
  reports : Nat := 0
  metricFetches : Nat := 0
deriving DecidableEq

/-- A lab: the state of its run and of its counters. -/
structure Lab where
  run : Lab.Run := {}
  counters : Lab.Counters := {}
deriving DecidableEq

namespace Lab

/-! ### Routes -/

/-- What a request asks for. -/
inductive Route where
  | reset
  /-- Seeds jobs; without a value, as many as is usual. -/
  | seed (items : Option (List Char))
  | dispatch (mode : Mode)
  | report
  | gauge (name : String)
deriving DecidableEq

/-- Why a request leads nowhere. -/
inductive Dead where
  /-- No endpoint has this path. -/
  | notFound
  /-- The endpoint takes another method. -/
  | methodNotAllowed
  /-- The name of the gauge is no UTF-8. -/
  | invalidName
deriving DecidableEq

/-- What the paths of gauges begin with. -/
def gaugePath : List Char := "/actuator/metrics/".toList

/-- The name of a gauge, as it is written in its path. -/
def gaugeName? (path : List Char) : Option (List Char) :=
  match gaugePath.isPrefixOf path, path.drop gaugePath.length with
  | true, c :: name => if (c :: name).all (· != '/') then some (c :: name) else none
  | _, _ => none

/-- Endpoints, before a method is chosen. -/
inductive Endpoint where
  | reset
  | seed
  | dispatch (mode : Mode)
  | report
  | gauge (name : List Char)
deriving DecidableEq

def Endpoint.ofPath? (path : List Char) : Option Endpoint :=
  if path = "/lab/report/reset".toList then some .reset
  else if path = "/lab/seed".toList then some .seed
  else if path = "/lab/report".toList then some .report
  else
    match Mode.all.find? (·.path.toList == path) with
    | some mode => some (.dispatch mode)
    | none => (gaugeName? path).map .gauge

def Endpoint.isReadable : Endpoint → Bool
  | .report | .gauge _ => true
  | _ => false

def Endpoint.takes (endpoint : Endpoint) (method : String) : Bool :=
  if endpoint.isReadable then method = "GET" ∨ method = "HEAD" else method = "POST"

/-- The path and the query of the target of a request. -/
def splitTarget (target : List Char) : List Char × List Char :=
  match (target.takeWhile (· != '#')).span (· != '?') with
  | (path, []) => (path, [])
  | (path, _ :: query) => (path, query)

/-- What a method and a target ask for. -/
def Route.of (method target : String) : Except Dead Route :=
  let (path, query) := splitTarget target.toList
  match Endpoint.ofPath? path with
  | none => .error .notFound
  | some endpoint =>
    if endpoint.takes method then
      match endpoint with
      | .reset => .ok .reset
      | .seed => .ok (.seed (Url.queryValue? query "items".toList))
      | .dispatch mode => .ok (.dispatch mode)
      | .report => .ok .report
      | .gauge name =>
        match Text.Utf8.decode? (Url.percentDecode name) with
        | some name => .ok (.gauge (String.ofList name))
        | none => .error .invalidName
    else .error .methodNotAllowed

/-! ### Responses -/

/-- The body of a response. -/
inductive Body where
  | text (s : String)
  | json (fields : Json.Fields)
  /-- A body that never ends. -/
  | stalled

structure Response where
  status : Nat
  body : Body

/-- A response without a body. -/
def Response.empty (status : Nat) : Response := ⟨status, .text ""⟩

/-- The response to a request that leads nowhere. -/
def Dead.response : Dead → Response
  | .notFound => .empty 404
  | .methodNotAllowed => .empty 405
  | .invalidName => ⟨400, .text "Invalid URL: Invalid UTF-8 in `name`"⟩

/-- The response that the options demand in place of the usual one. -/
def injected? (options : Options) (phase : Phase) : Option Response :=
  if options.stallOn = some phase then some ⟨200, .stalled⟩
  else if options.failOn = some phase then some ⟨options.failStatus, .text "injected failure"⟩
  else none

/-- The jobs that are seeded when no number is given. -/
def usualItems : Nat := 100

/-- The number of jobs to seed. -/
def seedItems (items : Option (List Char)) : Except Text.IntegerError Nat :=
  match items with
  | none => .ok usualItems
  | some digits => Text.readNat64 digits

/-- The lab with one request more in its counters. -/
def count (lab : Lab) : Route → Lab
  | .reset => { lab with counters.resets := lab.counters.resets + 1 }
  | .seed _ => { lab with counters.seeds := lab.counters.seeds + 1 }
  | .dispatch _ => { lab with counters.dispatches := lab.counters.dispatches + 1 }
  | .report => { lab with counters.reports := lab.counters.reports + 1 }
  | .gauge _ => { lab with counters.metricFetches := lab.counters.metricFetches + 1 }

/-- The phase that a route belongs to; gauges belong to none. -/
def Route.phase? : Route → Option Phase
  | .reset => some .reset
  | .seed _ => some .seed
  | .dispatch _ => some .dispatch
  | .report => some .report
  | .gauge _ => none

/-- The document that shows a gauge. -/
def gaugeFields (name : String) (value : Binary64) : Json.Fields :=
  Json.Fields.ofList
    [("name", .string name), ("baseUnit", .string "bytes"),
      ("measurements",
        .array [Json.ofBindings [("statistic", .string "VALUE"), ("value", .ofFloat value)]])]

/-- What a route does to the run of a lab, when nothing is injected. -/
def serve (options : Options) (now : Nat) (run : Run) : Route → Response × Run
  | .reset => (.empty 200, run.reset)
  | .seed items =>
    match seedItems items with
    | .error _ => (⟨400, .text "bad items"⟩, run)
    | .ok n => (⟨200, .json [("seeded", .ofNat n)]⟩, run.seed n)
  | .dispatch mode =>
    (⟨200, .json [("dispatched", .ofNat run.pending), ("mode", .string mode.name)]⟩,
      run.start mode now)
  | .report =>
    let run := run.advance options.drainPerReport now
    (⟨200, .json (run.report options)⟩, run)
  | .gauge name =>
    match if options.heapMetrics then gauge? run name else none with
    | some value => (⟨200, .json (gaugeFields name value)⟩, run)
    | none => (.empty 404, run)

/-- Serves a route. -/
def follow (options : Options) (now : Nat) (route : Route) (lab : Lab) : Response × Lab :=
  let lab := lab.count route
  match route.phase?.bind (injected? options) with
  | some response => (response, lab)
  | none =>
    let (response, run) := serve options now lab.run route
    (response, { lab with run := run })

/-- Answers a request that arrives at a time. -/
def respond (options : Options) (now : Nat) (method target : String) (lab : Lab) : Response × Lab :=
  match Route.of method target with
  | .error dead => (dead.response, lab)
  | .ok route =>
    let (response, lab) := lab.follow options now route
    (if method = "HEAD" then .empty response.status else response, lab)

end Lab

end QueueDrain
