import QueueDrain.Proofs.Heap.Gauges
import QueueDrain.Proofs.Http.Calls
import QueueDrain.Proofs.Json.Admission
import QueueDrain.Url.Standard

/-!
What a client makes of responses.

A request is answered when all of a response is there within its limit (`Answered`), and overdue
when nothing has come to an end by then (`Overdue`).  The three families of requests differ in the
statuses that they accept, in what a body has to be, and in their limits:

* `CommandMeaning`: a command succeeds with any success status, and its body only shows in errors;
* `ReportMeaning`: a report has the status 200 and a body that spells an object that is bounded;
* `MetricMeaning`: a metric never fails, but there may be no value;
* `classified`: this is what each of them means, and an overdue one times out after its own limit.

Not every object is a report, and not every number of a gauge may be there (`objects_refused`).

Design notes: whether there is a value does not hang on the whole body of a metric, since parts of
it are not looked at.  So the value is what the sketch of the body shows; for bodies that spell a
document it is what the document shows.
-/

namespace QueueDrain

namespace Client

/-! ### What responses mean -/

/-- The response says that the request was carried out. -/
def Succeeds (response : Http.Response) : Prop := 200 ≤ response.status ∧ response.status ≤ 299

/-- The body of a response as a text, with U+FFFD for each part that is none. -/
def lossyBody (response : Http.Response) : String :=
  String.ofList (Text.Utf8.decodeLossy response.body)

/-- What becomes of a command whose response is there. -/
structure CommandMeaning (c : Command) (url : String) (response : Http.Response)
    (outcome : Except Error Unit) : Prop where
  success_iff : outcome = .ok () ↔ Succeeds response
  refused : ¬Succeeds response → outcome =
    .error (.controlRequest c.phase "POST" url response.status (lossyBody response))

/-- What becomes of a request for a report whose response is there. -/
structure ReportMeaning (url : String) (response : Http.Response)
    (outcome : Except Error Report) : Prop where
  success_iff : ∀ report, outcome = .ok report ↔
    response.status = 200 ∧ Json.SpellsObject response.body report.fields
  refused : response.status ≠ 200 → outcome =
    .error (.controlRequest .report "GET" url response.status (lossyBody response))
  invalid : response.status = 200 → (∀ fields, ¬Json.SpellsObject response.body fields) →
    outcome = .error (.invalidReport url (lossyBody response))

/-- What becomes of a request for a metric whose response is there. -/
structure MetricMeaning (response : Http.Response) (outcome : Except Error (Option Binary64)) :
    Prop where
  /-- It is no error. -/
  ok : ∃ value?, outcome = .ok value?
  /-- The value is that of the first measurement that the body shows. -/
  value_iff : ∀ x, outcome = .ok (some x) ↔ Succeeds response ∧
    ∃ sketch, Json.sketch? response.body = some sketch ∧
      Heap.Shows Json.Lexeme.read? sketch (some x)
  /-- If the body spells a document, it is that of the first measurement of the document. -/
  document_iff : ∀ document, Json.Spells response.body document → ∀ x,
    outcome = .ok (some x) ↔ Succeeds response ∧ Heap.Shows some document (some x)

theorem succeeds_iff {response : Http.Response} : response.isSuccess ↔ Succeeds response := by
  rw [Http.Response.isSuccess, decide_eq_true_iff, Succeeds]
  omega

theorem commandMeaning (c : Command) (request : Http.Request) (hmethod : request.method = .post)
    (response : Http.Response) :
    CommandMeaning c request.url response (commandOutcome c request response) := by
  rw [commandOutcome]
  by_cases hsuccess : response.isSuccess
  · rw [if_pos hsuccess]
    exact ⟨iff_of_true rfl (succeeds_iff.mp hsuccess), fun hnot => absurd
      (succeeds_iff.mp hsuccess) hnot⟩
  · rw [if_neg hsuccess]
    refine ⟨iff_of_false nofun (mt succeeds_iff.mpr hsuccess), fun _ => ?_⟩
    rw [refused, hmethod]
    rfl

theorem reportMeaning (request : Http.Request) (hmethod : request.method = .get)
    (response : Http.Response) :
    ReportMeaning request.url response (reportOutcome request response) := by
  rw [reportOutcome]
  by_cases hstatus : response.status = 200
  · rw [if_pos hstatus]
    cases hobject : (Json.parseBytes? response.body).bind Json.object? with
    | none =>
      have hno : ∀ fields, ¬Json.SpellsObject response.body fields := by
        intro fields hspells
        cases hobject.symm.trans (Json.object?_parseBytes?_eq_some_iff.mpr hspells)
      exact ⟨fun report => iff_of_false nofun fun h => hno _ h.2,
        fun hne => absurd hstatus hne, fun _ _ => rfl⟩
    | some fields =>
      have hspells := Json.object?_parseBytes?_eq_some_iff.mp hobject
      refine ⟨fun report => ⟨?_, ?_⟩, fun hne => absurd hstatus hne,
        fun _ hno => absurd hspells (hno fields)⟩
      · intro h
        cases h
        exact ⟨hstatus, hspells⟩
      · rintro ⟨-, hspells'⟩
        have hfields := Json.object?_parseBytes?_eq_some_iff.mpr hspells'
        rw [hobject] at hfields
        cases hfields
        rfl
  · rw [if_neg hstatus]
    refine ⟨fun report => iff_of_false nofun fun h => hstatus h.1, fun _ => ?_,
      fun h => absurd h hstatus⟩
    rw [refused, hmethod]
    rfl

theorem metricMeaning (response : Http.Response) :
    MetricMeaning response (.ok (metricValue? response)) := by
  have hvalue : ∀ x, metricValue? response = some x ↔ Succeeds response ∧
      ∃ sketch, Json.sketch? response.body = some sketch ∧
        Heap.Shows Json.Lexeme.read? sketch (some x) := by
    intro x
    rw [metricValue?, ← succeeds_iff]
    by_cases hsuccess : response.isSuccess
    · rw [if_pos hsuccess, Heap.readGaugeBody?, Option.bind_eq_some_iff]
      simp only [hsuccess, true_and, Heap.readGauge?_eq_some_iff]
    · simp [hsuccess]
  have hok : ∀ x, (.ok (metricValue? response) : Except Error (Option Binary64)) = .ok (some x) ↔
      metricValue? response = some x :=
    fun x => ⟨Except.ok.inj, congrArg Except.ok⟩
  refine ⟨⟨_, rfl⟩, fun x => (hok x).trans (hvalue x), fun document hspells x => ?_⟩
  obtain ⟨sketch, hsketch, hsketches⟩ := hspells.exists_sketch
  rw [hok, hvalue, Heap.shows_iff_of_sketches hsketches]
  refine and_congr_right fun _ => ⟨?_, fun hshows => ⟨sketch, hsketch, hshows⟩⟩
  rintro ⟨sketch', hsketch', hshows⟩
  cases hsketch.symm.trans hsketch'
  exact hshows

/-! ### When responses are there -/

variable {σ : Type} (client : Client) (network : Http.Network σ) (time : Nat) (state : σ)

/-- The request is sent, and all of the response is there within the limit. -/
structure Answered (limitMs : Nat) (request : Http.Request) (response : Http.Response) : Prop where
  address : client.urls.isTarget request.url = true
  complete : ∃ afterMs ≤ limitMs, (network request time state).1 = .complete afterMs response

/-- The request is sent, and has come to no end within the limit: neither is all of a response
there, nor has the connection failed. -/
structure Overdue (limitMs : Nat) (request : Http.Request) : Prop where
  address : client.urls.isTarget request.url = true
  complete : ∀ afterMs response, (network request time state).1 = .complete afterMs response →
    limitMs < afterMs
  unanswered : ∀ afterMs, (network request time state).1 = .unanswered afterMs → limitMs < afterMs
  broken : ∀ afterMs, (network request time state).1 = .broken afterMs → limitMs < afterMs

variable {client network time state}

theorem outcome_call_of_answered {α : Type} {limitMs : Nat} {request : Http.Request}
    {response : Http.Response} (h : Answered client network time state limitMs request response)
    (outcome : Except Error Http.Response → Except Error α) :
    (client.call network limitMs request outcome time state).1.outcome =
      outcome (.ok response) := by
  obtain ⟨afterMs, hle, htransfer⟩ := h.complete
  rw [call, if_pos h.address, htransfer, Http.Transfer.within, if_pos hle]
  rfl

theorem call_of_overdue {α : Type} {limitMs : Nat} {request : Http.Request}
    (h : Overdue client network time state limitMs request)
    (outcome : Except Error Http.Response → Except Error α) :
    (client.call network limitMs request outcome time state).1 =
      ⟨limitMs, outcome (.error (.timeout (.ofMillis limitMs)))⟩ := by
  have hlate : (network request time state).1.within limitMs = (limitMs, .late) := by
    cases htransfer : (network request time state).1 with
    | complete afterMs response =>
      rw [Http.Transfer.within, if_neg (Nat.not_le_of_lt (h.complete afterMs response htransfer))]
    | unanswered afterMs =>
      rw [Http.Transfer.within, if_neg (Nat.not_le_of_lt (h.unanswered afterMs htransfer))]
    | broken afterMs =>
      rw [Http.Transfer.within, if_neg (Nat.not_le_of_lt (h.broken afterMs htransfer))]
    | endless => rfl
  rw [call, if_pos h.address, hlate]
  rfl

variable (client network time state)

/-- What a call for a metric brings. -/
theorem reply_metric (metric : Heap.Metric) :
    reply (client.metric (network.exchange time) metric) state =
      client.call network client.metricTimeoutMs (client.metricRequest metric)
        (·.map metricValue?) time state :=
  client.reply_send network time client.metricTimeoutMs (client.metricRequest metric)
    (·.map metricValue?) state

/-- What the requests of a client mean that are made at some time, in some state of the network. -/
structure Classified : Prop where
  command : ∀ c response,
    Answered client network time state client.controlTimeoutMs (client.commandRequest c) response →
      CommandMeaning c (client.baseUrl ++ c.path) response
        ((client.target network).command c time state).1.outcome
  report : ∀ response,
    Answered client network time state client.controlTimeoutMs client.reportRequest response →
      ReportMeaning (client.baseUrl ++ "/lab/report") response
        ((client.target network).report time state).1.outcome
  metric : ∀ metric response,
    Answered client network time state client.metricTimeoutMs (client.metricRequest metric)
        response →
      MetricMeaning response
        (reply (client.metric (network.exchange time) metric) state).1.outcome
  command_overdue : ∀ c,
    Overdue client network time state client.controlTimeoutMs (client.commandRequest c) →
      ((client.target network).command c time state).1 =
        ⟨client.controlTimeoutMs, .error (.timeout (.ofMillis client.controlTimeoutMs))⟩
  report_overdue : Overdue client network time state client.controlTimeoutMs client.reportRequest →
    ((client.target network).report time state).1 =
      ⟨client.controlTimeoutMs, .error (.timeout (.ofMillis client.controlTimeoutMs))⟩
  metric_overdue : ∀ metric,
    Overdue client network time state client.metricTimeoutMs (client.metricRequest metric) →
      (reply (client.metric (network.exchange time) metric) state).1 =
        ⟨client.metricTimeoutMs, .error (.timeout (.ofMillis client.metricTimeoutMs))⟩

/-- **What responses mean**, whatever their status and body are and whenever they come. -/
theorem classified : Classified client network time state where
  command c response h := by
    rw [target_command, outcome_call_of_answered h]
    exact commandMeaning c (client.commandRequest c) rfl response
  report response h := by
    rw [target_report, outcome_call_of_answered h]
    exact reportMeaning client.reportRequest rfl response
  metric metric response h := by
    rw [reply_metric, outcome_call_of_answered h]
    exact metricMeaning response
  command_overdue c h := by
    rw [target_command, call_of_overdue h]
    rfl
  report_overdue h := by
    rw [target_report, call_of_overdue h]
    rfl
  metric_overdue metric h := by
    rw [reply_metric, call_of_overdue h]
    rfl

/-! ### Bodies that are not accepted -/

/-- A gauge whose second measurement is larger than all doubles. -/
def hugeGauge : List UInt8 :=
  Text.Utf8.encode
    "\x7b\"measurements\":[\x7b\"value\":1\x7d,\x7b\"value\":1e+999\x7d]\x7d".toList

/-- The measurements of this gauge. -/
def hugeMeasurements : List Json :=
  [.object [("value", .number (.int 1))],
    .object [("value", .number (.float (.infinity false)))]]

theorem spells_hugeGauge :
    Json.Spells hugeGauge (.object [("measurements", .array hugeMeasurements)]) := by
  refine Json.spells_of_lexes ?_
  have hsecond := Json.lexes_huge (Json.Token.stops_cons (by decide))
    (.mark (c := '\x7d') rfl (.mark (c := ']') rfl (.mark (c := '\x7d') rfl .nil)))
  have hfirst := Json.Lexes.mark (c := '1') rfl (.mark (c := '\x7d') rfl (.mark (c := ',') rfl
    (.mark (c := '\x7b') rfl (.writeString "value" (.mark (c := ':') rfl hsecond)))))
  exact .mark (c := '\x7b') rfl (.writeString "measurements" (.mark (c := ':') rfl
    (.mark (c := '[') rfl (.mark (c := '\x7b') rfl
      (.writeString "value" (.mark (c := ':') rfl hfirst))))))

/-- A measurement is finite, unless it is null. -/
theorem finite_of_measurement {n : Json.Number} {x : Option Binary64}
    (h : Heap.Measurement some (.object [("value", .number n)]) x) :
    n.toFloat.isFinite = true := by
  cases h with
  | absent hkeys hvalues =>
    obtain rfl := Heap.texts_some_iff.mp hkeys
    rw [Heap.valuesOf_cons_of_eq rfl] at hvalues
    cases hvalues
  | object hkeys hvalues hvalue =>
    obtain rfl := Heap.texts_some_iff.mp hkeys
    rw [Heap.valuesOf_cons_of_eq rfl] at hvalues
    cases hvalues
    cases hvalue with
    | number hfinite => exact hfinite

theorem not_shows_hugeGauge (first : Option Binary64) :
    ¬Heap.Shows some (.object [("measurements", .array hugeMeasurements)]) first := by
  rintro ⟨items, values, hitems, hvalues⟩
  cases hitems with
  | object hkeys hlist =>
    obtain rfl := Heap.texts_some_iff.mp hkeys
    rw [Heap.valuesOf_cons_of_eq rfl] at hlist
    cases hlist
    cases hvalues with
    | cons _ hrest =>
      cases hrest with
      | cons hsecond _ => exact absurd (finite_of_measurement hsecond) (by decide)

/-- A network on which all requests end in the same way. -/
def sameNetwork (transfer : Http.Transfer) : Http.Network Unit :=
  fun _ _ state => (transfer, state)

def labClient : Client := ⟨"http://lab", 5000, 5000, Url.standard⟩

theorem answered_sameNetwork {limitMs : Nat} {request : Http.Request}
    (haddress : labClient.urls.isTarget request.url = true) (response : Http.Response) :
    Answered labClient (sameNetwork (.complete 0 response)) 0 () limitMs request response :=
  ⟨haddress, 0, Nat.zero_le limitMs, rfl⟩

/-- The report is invalid if the body is an object that is not bounded. -/
theorem report_of_not_bounded {body : List UInt8} {bindings : List (String × Json)}
    (hspells : Json.Spells body (.object bindings))
    (hbounded : ¬Json.Bounded Json.nestingLimit (.object bindings)) :
    ((labClient.target (sameNetwork (.complete 0 ⟨200, body⟩))).report 0 ()).1.outcome =
      .error (.invalidReport "http://lab/lab/report" (lossyBody ⟨200, body⟩)) := by
  rw [target_report, outcome_call_of_answered (answered_sameNetwork (by decide) ⟨200, body⟩)]
  exact (reportMeaning labClient.reportRequest rfl ⟨200, body⟩).invalid rfl
    (Json.not_spellsObject hspells hbounded)

/-- **Objects that are refused**: a report with too many arrays inside each other, a report with too
large a number, and a gauge whose first measurement is fine, but not the second one.  And a response
that breaks off is never complete, which is no timeout. -/
theorem objects_refused :
    (Json.Spells (Json.nestedBytes 126) (.object [("a", Json.nested 126)]) ∧
      ((labClient.target (sameNetwork (.complete 0 ⟨200, Json.nestedBytes 126⟩))).report 0
        ()).1.outcome = .error (.invalidReport "http://lab/lab/report"
          (lossyBody ⟨200, Json.nestedBytes 126⟩))) ∧
    (Json.Spells Json.hugeBytes (.object [("a", .number (.float (.infinity false)))]) ∧
      ((labClient.target (sameNetwork (.complete 0 ⟨200, Json.hugeBytes⟩))).report 0
        ()).1.outcome = .error (.invalidReport "http://lab/lab/report"
          (lossyBody ⟨200, Json.hugeBytes⟩))) ∧
    (Json.Spells hugeGauge (.object [("measurements", .array hugeMeasurements)]) ∧
      (reply (labClient.metric ((sameNetwork (.complete 0 ⟨200, hugeGauge⟩)).exchange 0) .used)
        ()).1.outcome = .ok none) ∧
    ((labClient.target (sameNetwork (.broken 0))).report 0 ()).1.outcome = .error .bodyRead := by
  refine ⟨⟨Json.spells_nested 126, ?_⟩, ⟨Json.spells_huge, ?_⟩, ⟨spells_hugeGauge, ?_⟩, ?_⟩
  · exact report_of_not_bounded (Json.spells_nested 126) (Json.not_bounded_nested_field "a")
  · exact report_of_not_bounded Json.spells_huge (Json.not_bounded_huge "a")
  · rw [reply_metric, outcome_call_of_answered (answered_sameNetwork (by decide) ⟨200, hugeGauge⟩)]
    have hmeaning := metricMeaning ⟨200, hugeGauge⟩
    obtain ⟨value?, hvalue⟩ := hmeaning.ok
    show Except.ok (metricValue? ⟨200, hugeGauge⟩) = _
    rw [hvalue]
    cases value? with
    | none => rfl
    | some x =>
      exact absurd ((hmeaning.document_iff _ spells_hugeGauge x).mp hvalue).2
        (not_shows_hugeGauge (some x))
  · rw [target_report, call, if_pos (by decide)]
    rfl

end Client

end QueueDrain
