import Mathlib.Data.List.TakeWhile
import QueueDrain.Lab.Network
import QueueDrain.Proofs.Http.Calls
import QueueDrain.Proofs.Lab.Reports
import QueueDrain.Proofs.Url.Query

/-!
What a client finds at a lab.

A lab that injects nothing answers every call of its client at once: a command is obeyed
(`target_command`), a report is a step of the run and shows what the run is after it
(`target_report`), and a metric is read without a change to the run (`target_metric`).
-/

namespace QueueDrain

/-- The number of a command has 64 bits. -/
def Command.Fits : Command → Prop
  | .seed items => items < UInt64.size
  | _ => True

namespace Lab

/-! ### Routes -/

theorem dropStart?_append (start s : List Char) : dropStart? start (start ++ s) = some s := by
  induction start with
  | nil => rfl
  | cons a start ih =>
    rw [List.cons_append, dropStart?, if_pos rfl]
    exact ih

theorem of_reset : Route.of "POST" "/lab/report/reset" = .ok .reset := rfl

theorem of_dispatch (mode : Mode) : Route.of "POST" mode.path = .ok (.dispatch mode) := by
  cases mode <;> rfl

theorem of_report : Route.of "GET" "/lab/report" = .ok .report := rfl

theorem isPlain_of_mem_toDigits {n : Nat} {c : Char} (hc : c ∈ Nat.toDigits 10 n) :
    Url.IsPlain c := by
  have hdigit : c.isDigit := Nat.isDigit_of_mem_toDigits (by decide) (by decide) hc
  refine ⟨?_, ?_, ?_, ?_, ?_, ?_⟩ <;>
    · rintro rfl
      exact absurd hdigit (by decide)

theorem of_seed (n : Nat) :
    Route.of "POST" (Command.path (.seed n)) = .ok (.seed (some (Nat.toDigits 10 n))) := by
  have hpath : (Command.path (.seed n)).toList =
      "/lab/seed".toList ++ '?' :: ("items".toList ++ '=' :: Nat.toDigits 10 n) := by
    show ("/lab/seed?items=" ++ toString n).toList = _
    rw [String.toList_append, Text.toList_toString]
    rfl
  have hplain : ∀ c ∈ "items".toList, Url.IsPlain c := fun c hc => of_decide_eq_true
    (List.all_eq_true.mp (by decide : "items".toList.all fun c => Url.IsPlain c) c hc)
  have hseed : ∀ c ∈ "/lab/seed".toList, (c != '#') = true ∧ (c != '?') = true := fun c hc =>
    of_decide_eq_true (List.all_eq_true.mp
      (by decide : "/lab/seed".toList.all fun c => (c != '#') = true ∧ (c != '?') = true) c hc)
  have hdigits : ∀ c ∈ Nat.toDigits 10 n, Url.IsPlain c := fun c hc => isPlain_of_mem_toDigits hc
  -- there is no fragment that would be cut off
  have hnumber : ∀ c ∈ (Command.path (.seed n)).toList, (c != '#') = true := by
    intro c hc
    rw [hpath] at hc
    rcases List.mem_append.mp hc with hc | hc
    · exact (hseed c hc).1
    · rcases List.mem_cons.mp hc with rfl | hc
      · decide
      · rcases List.mem_append.mp hc with hc | hc
        · exact bne_iff_ne.mpr (hplain c hc).2.2.2.2.1
        · rcases List.mem_cons.mp hc with rfl | hc
          · decide
          · exact bne_iff_ne.mpr (hdigits c hc).2.2.2.2.1
  have hsplit : splitTarget (Command.path (.seed n)).toList =
      ("/lab/seed".toList, "items".toList ++ '=' :: Nat.toDigits 10 n) := by
    rw [splitTarget, List.takeWhile_eq_self_iff.mpr hnumber, hpath,
      Text.span_append_cons (fun c hc => (hseed c hc).2) (by decide)]
  have hvalue := Url.queryValue?_single hplain hdigits
  have hendpoint : Endpoint.ofPath? "/lab/seed".toList = some .seed := rfl
  rw [Route.of, hsplit]
  dsimp only
  rw [hendpoint]
  dsimp only
  rw [if_pos (by decide), hvalue]

theorem ofPath?_gauge (metric : Heap.Metric) :
    ∃ name, Endpoint.ofPath? (splitTarget
      ("/actuator/metrics/" ++ metric.gaugeName ++ "?tag=area:heap").toList).1 =
      some (.gauge name) := by
  cases metric <;> exact ⟨_, rfl⟩

/-! ### Responses -/

/-- No request is made to fail or to stall. -/
structure Options.IsQuiet (options : Options) : Prop where
  failOn : options.failOn = none
  stallOn : options.stallOn = none

variable {options : Options}

theorem injected?_eq_none (h : options.IsQuiet) (phase : Phase) :
    injected? options phase = none := by
  rw [injected?, h.stallOn, h.failOn]
  rfl

/-- A lab that is quiet serves every route. -/
theorem respond_of_route (h : options.IsQuiet) {method target : String} {route : Route}
    (hmethod : method ≠ "HEAD") (hroute : Route.of method target = .ok route) (now : Nat)
    (lab : Lab) :
    (lab.respond options now method target).1 = (serve options now lab.run route).1 ∧
      (lab.respond options now method target).2.run = (serve options now lab.run route).2 := by
  have hrun : (lab.count route).run = lab.run := by cases route <;> rfl
  have hinjected : route.phase?.bind (injected? options) = none := by
    rcases route.phase? with _ | phase
    · rfl
    · exact injected?_eq_none h phase
  rw [respond, hroute]
  dsimp only
  rw [if_neg hmethod, follow, hinjected, hrun]
  exact ⟨rfl, rfl⟩

/-- A response that arrives at once. -/
def Response.IsPrompt (response : Response) : Prop :=
  ∃ body, response.transfer = .complete 0 ⟨response.status, body⟩

theorem isPrompt_text (status : Nat) (s : String) : (Response.mk status (.text s)).IsPrompt :=
  ⟨_, rfl⟩

theorem isPrompt_json (status : Nat) (fields : Json.Fields) :
    (Response.mk status (.json fields)).IsPrompt :=
  ⟨_, rfl⟩

theorem isPrompt_of_dead (dead : Dead) : dead.response.IsPrompt := by
  cases dead <;> exact isPrompt_text _ _

/-- Gauges are shown at once, or there is nothing to show, without a change to the run. -/
theorem serve_gauge (options : Options) (now : Nat) (run : Run) (name : String) :
    (serve options now run (.gauge name)).1.IsPrompt ∧
      (serve options now run (.gauge name)).2 = run := by
  rw [serve]
  rcases (if options.heapMetrics then gauge? run name else none) with _ | value
  · exact ⟨isPrompt_text _ _, rfl⟩
  · exact ⟨isPrompt_json _ _, rfl⟩

/-- What a request for a gauge leads to, if it leads anywhere. -/
theorem of_gauge {target : String} {name : List Char}
    (h : Endpoint.ofPath? (splitTarget target.toList).1 = some (.gauge name)) (method : String) :
    (∃ dead, Route.of method target = .error dead) ∨
      ∃ name, Route.of method target = .ok (.gauge name) := by
  rw [Route.of]
  dsimp only
  rw [h]
  dsimp only
  split
  · rcases Text.Utf8.decode? (Url.percentDecode name) with _ | s
    · exact Or.inl ⟨_, rfl⟩
    · exact Or.inr ⟨_, rfl⟩
  · exact Or.inl ⟨_, rfl⟩

theorem respond_of_gauge (h : options.IsQuiet) {target : String} {name : List Char}
    (hpath : Endpoint.ofPath? (splitTarget target.toList).1 = some (.gauge name)) (now : Nat)
    (lab : Lab) :
    (lab.respond options now "GET" target).1.IsPrompt ∧
      (lab.respond options now "GET" target).2.run = lab.run := by
  rcases of_gauge hpath "GET" with ⟨dead, hroute⟩ | ⟨name, hroute⟩
  · rw [respond, hroute]
    exact ⟨isPrompt_of_dead dead, rfl⟩
  · obtain ⟨hresponse, hrun⟩ := respond_of_route h (by decide) hroute now lab
    rw [hresponse, hrun]
    exact serve_gauge options now lab.run name

/-! ### Commands and reports -/

/-- **A command is obeyed.** -/
theorem serve_command {c : Command} (hc : c.Fits) (options : Options) (now : Nat) (run : Run) :
    ∃ route, Route.of "POST" c.path = .ok route ∧ (serve options now run route).1.status = 200 ∧
      (serve options now run route).1.IsPrompt ∧
      (serve options now run route).2 = run.obey now c := by
  cases c with
  | reset => exact ⟨_, of_reset, rfl, isPrompt_text _ _, rfl⟩
  | seed items =>
    refine ⟨_, of_seed items, ?_⟩
    have hread : seedItems (some (Nat.toDigits 10 items)) = .ok items :=
      Text.readNat64_toDigits hc
    rw [serve, hread]
    exact ⟨rfl, isPrompt_json _ _, rfl⟩
  | dispatch mode => exact ⟨_, of_dispatch mode, rfl, isPrompt_json _ _, rfl⟩

/-! ### Calls -/

variable {client : Client} {lab : Lab} {time : Nat}

/-- What a call brings that a lab answers at once. -/
theorem call_network {α : Type} (request : Http.Request) {target : String}
    {response : Http.Response} (haddress : client.urls.isTarget request.url)
    (hurl : request.url = client.baseUrl ++ target)
    (htransfer : (lab.respond options time request.method.name target).1.transfer =
      .complete 0 response)
    (limitMs : Nat) (outcome : Except Error Http.Response → Except Error α) :
    client.call (network options client.baseUrl) limitMs request outcome time lab =
      (⟨0, outcome (.ok response)⟩,
        (lab.respond options time request.method.name target).2) := by
  have hnetwork : network options client.baseUrl request time lab =
      (.complete 0 response, (lab.respond options time request.method.name target).2) := by
    rw [network, hurl, String.toList_append, dropStart?_append]
    dsimp only
    rw [String.ofList_toList, htransfer]
  rw [Client.call, if_pos haddress, hnetwork]
  dsimp only
  rw [Http.Transfer.within, if_pos (Nat.zero_le limitMs)]
  rfl

/-- **A command is obeyed**, and answered at once. -/
theorem target_command (h : options.IsQuiet) {c : Command}
    (haddress : client.urls.isTarget (client.commandRequest c).url) (hc : c.Fits) :
    ((client.target (network options client.baseUrl)).command c time lab).1 = ⟨0, .ok ()⟩ ∧
      ((client.target (network options client.baseUrl)).command c time lab).2.run =
        lab.run.obey time c := by
  obtain ⟨route, hroute, hstatus, hprompt, hrun⟩ := serve_command hc options time lab.run
  obtain ⟨hresponse, hafter⟩ := respond_of_route h (by decide) hroute time lab
  obtain ⟨body, htransfer⟩ := hprompt
  rw [hstatus, ← hresponse] at htransfer
  rw [Client.target_command,
    call_network (client.commandRequest c) haddress rfl htransfer]
  exact ⟨rfl, hafter.trans hrun⟩

/-- The text of a report is read as a report that shows the run. -/
theorem reportOutcome_text (hoptions : options.Fits) {run : Run} (hrun : run.Fits)
    (request : Http.Request) :
    ∃ report, run.Shows options report ∧
      Client.reportOutcome request ⟨200, Text.Utf8.encode (run.report options).text.toList⟩ =
        .ok report := by
  refine ⟨⟨(run.report options).mapValues Json.reread⟩, by rw [Run.Shows], ?_⟩
  rw [Client.reportOutcome, if_pos rfl,
    Json.parseBytes?_text (Run.readable_report hoptions hrun)]

/-- **A report is a step**, and shows at once what the run is after it. -/
theorem target_report (h : options.IsQuiet) (hoptions : options.Fits)
    (haddress : client.urls.isTarget client.reportRequest.url)
    (hrun : (lab.run.advance options.drainPerReport time).Fits) :
    ∃ report, (lab.run.advance options.drainPerReport time).Shows options report ∧
      ((client.target (network options client.baseUrl)).report time lab).1 = ⟨0, .ok report⟩ ∧
      ((client.target (network options client.baseUrl)).report time lab).2.run =
        lab.run.advance options.drainPerReport time := by
  obtain ⟨hresponse, hafter⟩ := respond_of_route h (by decide) of_report time lab
  have htransfer : (lab.respond options time "GET" "/lab/report").1.transfer =
      .complete 0 ⟨200, Text.Utf8.encode
        ((lab.run.advance options.drainPerReport time).report options).text.toList⟩ := by
    rw [hresponse]
    rfl
  rw [Client.target_report,
    call_network client.reportRequest haddress rfl htransfer]
  obtain ⟨report, hshows, houtcome⟩ := reportOutcome_text hoptions hrun client.reportRequest
  exact ⟨report, hshows, congrArg (Reply.mk 0) houtcome, hafter⟩

/-- **A metric is read at once**, or there is none, without a change to the run. -/
theorem target_metric (h : options.IsQuiet) (metric : Heap.Metric) :
    ((client.target (network options client.baseUrl)).metric metric time lab).1.delayMs = 0 ∧
      ((client.target (network options client.baseUrl)).metric metric time lab).1.sample ≠ .crash ∧
      ((client.target (network options client.baseUrl)).metric metric time lab).2.run =
        lab.run := by
  have hsample : ∀ outcome, Client.sample outcome ≠ .crash := by
    rintro (_ | _ | x) <;> simp [Client.sample]
  rw [Client.target_metric]
  by_cases haddress : client.urls.isTarget (client.metricRequest metric).url
  -- the request is sent, and its route is a gauge or none
  · obtain ⟨name, hpath⟩ := ofPath?_gauge metric
    obtain ⟨⟨body, htransfer⟩, hrun⟩ := respond_of_gauge h hpath time lab
    have hurl : (client.metricRequest metric).url =
        client.baseUrl ++ ("/actuator/metrics/" ++ metric.gaugeName ++ "?tag=area:heap") := by
      rw [Client.metricRequest]
      simp only [String.append_assoc]
    rw [call_network _ haddress hurl htransfer]
    dsimp only [Prod.map_apply, id]
    exact ⟨rfl, hsample _, hrun⟩
  -- the request has no address to be sent to, which the sampler counts as a missing value
  · rw [Client.call, if_neg haddress]
    exact ⟨rfl, hsample (.error (.invalidUrl (client.metricRequest metric).url)), rfl⟩

end Lab

end QueueDrain
