import QueueDrain.Client
import QueueDrain.Proofs.Plan.BaseUrl
import QueueDrain.Proofs.Text.Integer
import QueueDrain.Proofs.Url.Standard

/-!
Which requests of a plan have an address that they can be sent to.

The base address of a plan has been accepted by a lenient reader, and the addresses of requests are
read by a strict one.  Every request adds the path of an endpoint (`Client.Makes.exists_endpoint`),
so it can be sent exactly if the strict reader takes the base address as well, with its scheme
spelled out, and if there is room for the path (`Client.send_invalidUrl_iff`).  That holds of any
readers that keep to the rules of addresses.  The lenient reader does not see to it: with a blank in
the base address nothing can be sent (`Client.resolve_spacedInputs`).
-/

namespace QueueDrain

/-! ### Endpoints -/

namespace Url

theorem isEndpoint_of_all {c : Char} {rest : List Char} (hc : c ≠ '/')
    (hplain : ('/' :: c :: rest).all isPlainChar) : IsEndpoint ('/' :: c :: rest) :=
  ⟨⟨c, rest, rfl, hc⟩, List.all_eq_true.mp hplain⟩

/-- The path that asks for a number of jobs. -/
theorem isEndpoint_seed (items : Nat) : IsEndpoint (Command.path (.seed items)).toList := by
  have hpath : (Command.path (.seed items)).toList =
      "/lab/seed?items=".toList ++ Nat.toDigits 10 items := by
    show ("/lab/seed?items=" ++ toString items).toList = _
    rw [String.toList_append, Text.toList_toString]
  rw [hpath]
  refine ⟨⟨'l', _, rfl, by decide⟩, fun c hc => ?_⟩
  rcases List.mem_append.mp hc with hc | hc
  · exact List.all_eq_true.mp (by decide : "/lab/seed?items=".toList.all isPlainChar) c hc
  · have hdigit : c.isDigit := Nat.isDigit_of_mem_toDigits (by decide) (by decide) hc
    simp [isPlainChar, hdigit]

end Url

namespace Client

/-- The requests that a client makes. -/
inductive Makes (client : Client) : Http.Request → Prop where
  | command (c : Command) : client.Makes (client.commandRequest c)
  | report : client.Makes client.reportRequest
  | metric (metric : Heap.Metric) : client.Makes (client.metricRequest metric)

variable {client : Client} {request : Http.Request}

/-- Every request goes to the base address with the path of an endpoint after it. -/
theorem Makes.exists_endpoint (h : client.Makes request) :
    ∃ path : String, request.url = client.baseUrl ++ path ∧ Url.IsEndpoint path.toList := by
  cases h with
  | command c =>
    refine ⟨c.path, rfl, ?_⟩
    cases c with
    | reset => exact Url.isEndpoint_of_all (by decide) (by decide)
    | seed items => exact Url.isEndpoint_seed items
    | dispatch mode =>
      cases mode <;> exact Url.isEndpoint_of_all (by decide) (by decide)
  | report =>
    exact ⟨"/lab/report", rfl, Url.isEndpoint_of_all (by decide) (by decide)⟩
  | metric metric =>
    refine ⟨"/actuator/metrics/" ++ metric.gaugeName ++ "?tag=area:heap", ?_, ?_⟩
    · simp [metricRequest, String.append_assoc]
    · cases metric <;> exact Url.isEndpoint_of_all (by decide) (by decide)

end Client

/-! ### The base address of a plan -/

variable {urls : Url.Readers} {profile : Profile} {inputs : Inputs} {plan : Plan}

/-- What the base address of a plan does not begin with, and does not end with. -/
theorem Plan.baseUrl_of_resolve (h : urls.ReadsAbsolute)
    (hplan : resolve urls profile inputs = .ok plan) :
    plan.baseUrl ≠ "" ∧ plan.baseUrl.toList.head? ≠ some '/' ∧
      plan.baseUrl.toList.getLast? ≠ some '/' := by
  obtain ⟨hbase, haddress⟩ := resolveBaseUrl_eq_ok_iff.mp (comes_of_resolve_eq_ok hplan).baseUrl
  refine ⟨baseUrl_ne_empty h.empty hplan, fun hslash => ?_, fun hslash => ?_⟩
  · rw [Url.Readers.isWeb, h.relative _ hslash] at haddress
    cases haddress
  · rw [hbase] at hslash
    exact ne_slash_getLast?_trimBaseUrl _ _ hslash rfl

namespace Client

variable {request : Http.Request}

/-- The slashes that a client takes off the base address of a plan are gone already. -/
theorem baseUrl_ofPlan (h : urls.ReadsAbsolute)
    (hplan : Plan.resolve urls profile inputs = .ok plan) :
    (ofPlan urls plan).baseUrl = plan.baseUrl := by
  have hlast : ∀ c ∈ plan.baseUrl.toList.getLast?, ¬ (c == '/') = true := by
    intro c hc hslash
    rw [beq_iff_eq.mp hslash] at hc
    exact (Plan.baseUrl_of_resolve h hplan).2.2 hc
  rw [ofPlan, withTimeouts]
  dsimp only
  rw [Text.trimEndWhere_eq_self hlast, String.ofList_toList]

/-- What a client can send requests to, as far as the request leaves it to the base address. -/
theorem isTarget_iff (habsolute : urls.ReadsAbsolute) (htargets : urls.ReadsTargets)
    (hplan : Plan.resolve urls profile inputs = .ok plan)
    (hrequest : (ofPlan urls plan).Makes request) :
    urls.isTarget request.url ↔ Url.SpellsScheme plan.baseUrl.toList ∧
      urls.isTarget plan.baseUrl ∧ request.url.utf8ByteSize ≤ Url.requestLimit := by
  obtain ⟨path, hurl, hpath⟩ := hrequest.exists_endpoint
  obtain ⟨hne, hhead, hlast⟩ := Plan.baseUrl_of_resolve habsolute hplan
  rw [hurl, baseUrl_ofPlan habsolute hplan]
  exact htargets.append_iff hpath hne hhead hlast

/-- Nothing that is delivered is taken for a malformed address. -/
theorem delivered_ne_invalidUrl (limitMs : Nat) (delivery : Http.Delivery) (url : String) :
    delivered limitMs delivery ≠ .error (.invalidUrl url) := by
  cases delivery <;> simp [delivered]

/-- **A request of an accepted plan is refused as malformed** exactly if the base address of the
plan is no target that spells out its scheme, or if the whole address is too long.  What is asked of
the base address is the same for all requests, whatever they are for, and whatever the readers of
addresses are that keep to the rules. -/
theorem send_invalidUrl_iff (habsolute : urls.ReadsAbsolute) (htargets : urls.ReadsTargets)
    (hplan : Plan.resolve urls profile inputs = .ok plan)
    (hrequest : (ofPlan urls plan).Makes request)
    (exchange : Http.Request → Nat → Id Http.Delivery) (limitMs : Nat) (url : String) :
    (ofPlan urls plan).send exchange limitMs request = .error (.invalidUrl url) ↔
      url = request.url ∧ ¬ (Url.SpellsScheme plan.baseUrl.toList ∧
        urls.isTarget plan.baseUrl ∧ request.url.utf8ByteSize ≤ Url.requestLimit) := by
  rw [← isTarget_iff habsolute htargets hplan hrequest, send]
  show (if urls.isTarget request.url then _ else _) = _ ↔ _
  by_cases haddress : urls.isTarget request.url
  · rw [if_pos haddress]
    constructor
    · intro hsend
      exact absurd hsend (delivered_ne_invalidUrl limitMs _ url)
    · intro hurl
      exact absurd haddress hurl.2
  · rw [if_neg haddress]
    constructor
    · intro hsend
      cases hsend
      exact ⟨rfl, haddress⟩
    · rintro ⟨rfl, -⟩
      rfl

/-- Settings with a blank in the path of the base address. -/
def spacedInputs : Inputs := { baseUrl := "http://127.0.0.1:1/my lab/" }

def spacedPlan : Plan :=
  { Plan.single with
    baseUrl := "http://127.0.0.1:1/my lab", items := [100, 250, 500], modes := [.async, .sync]
    runs := 3 }

theorem resolve_spacedInputs :
    Plan.resolve Url.standard .flow spacedInputs = .ok spacedPlan := by
  have haddress : Url.standard.isWeb spacedPlan.baseUrl := by decide +kernel
  have hbase : Plan.resolveBaseUrl Url.standard spacedInputs.baseUrl = .ok spacedPlan.baseUrl :=
    Plan.resolveBaseUrl_eq_ok_iff.mpr ⟨by decide, haddress⟩
  rw [Plan.resolve, hbase]
  rfl

/-- The plan is accepted, and its reset is refused before anything is sent. -/
theorem send_spacedPlan :
    Url.standard.ReadsAbsolute ∧ Url.standard.ReadsTargets ∧
      Plan.resolve Url.standard .flow spacedInputs = .ok spacedPlan ∧
      (ofPlan Url.standard spacedPlan).send (m := Id) (fun _ _ => .unanswered)
          spacedPlan.controlTimeoutMs ((ofPlan Url.standard spacedPlan).commandRequest .reset) =
        .error (.invalidUrl "http://127.0.0.1:1/my lab/lab/report/reset") := by
  have hblank : ¬ Url.standard.isTarget spacedPlan.baseUrl := by decide
  refine ⟨Url.standard_readsAbsolute, Url.standard_readsTargets, resolve_spacedInputs, ?_⟩
  exact (send_invalidUrl_iff Url.standard_readsAbsolute Url.standard_readsTargets
    resolve_spacedInputs (.command .reset) _ _ _).mpr ⟨by decide, fun h => hblank h.2.1⟩

/-- Some plans are accepted whose requests cannot be sent. -/
theorem not_forall_isTarget :
    ¬ ∀ (profile : Profile) (inputs : Inputs) (plan : Plan),
      Plan.resolve Url.standard profile inputs = .ok plan →
        ∀ request, (ofPlan Url.standard plan).Makes request →
          Url.standard.isTarget request.url := by
  intro h
  have hreset := h .flow spacedInputs spacedPlan resolve_spacedInputs _ (.command .reset)
  exact absurd hreset (by decide)

end Client

end QueueDrain
