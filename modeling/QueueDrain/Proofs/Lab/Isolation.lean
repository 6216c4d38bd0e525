import Mathlib.Data.List.Forall2
import QueueDrain.Proofs.Lab.History

/-!
Requests that change nothing leave no trace but in the counters.

A request is idle if it reads a gauge, if its answer is injected, if the number it brings is
malformed or if it leads nowhere (`IsIdle`).  Idle requests leave the run as it was, so a history
without them gives the same answers to all others (`exchanges_filter`).  Without them the others may
be served at other times; that changes nothing in what is answered but what a clock has set
(`exchanges_sameButTime`).  `failures_isolated` puts this together, and adds that each counter tells
how many requests have come to its endpoint, whatever became of them.

Design notes: what a clock sets is left out by a relation and not by blanking fields, so that a
report still has to show the end of a run, though at any time.
-/

namespace QueueDrain.Lab

/-! ### Idle requests -/

/-- The kinds of requests that change nothing. -/
inductive IsIdle (options : Options) (request : Request) : Prop where
  | gauge {name : String} (hroute : Route.of request.method request.target = .ok (.gauge name))
  /-- The answer is made to stall. -/
  | stalled {route : Route} {phase : Phase}
      (hroute : Route.of request.method request.target = .ok route)
      (hphase : route.phase? = some phase) (h : options.stallOn = some phase)
  /-- The answer is an injected failure. -/
  | failed {route : Route} {phase : Phase}
      (hroute : Route.of request.method request.target = .ok route)
      (hphase : route.phase? = some phase) (h : options.failOn = some phase)
  /-- The number of jobs to seed is malformed. -/
  | malformed {digits : List Char} {e : Text.IntegerError}
      (hroute : Route.of request.method request.target = .ok (.seed (some digits)))
      (h : Text.readNat64 digits = .error e)
  | dead {dead : Dead} (hroute : Route.of request.method request.target = .error dead)

variable {options : Options} {lab lab' : Lab} {request request' : Request}

theorem isSome_injected?_iff {phase : Phase} :
    (injected? options phase).isSome ↔
      options.stallOn = some phase ∨ options.failOn = some phase := by
  rw [injected?]
  by_cases hstall : options.stallOn = some phase
  · rw [if_pos hstall]
    exact ⟨fun _ => Or.inl hstall, fun _ => rfl⟩
  · by_cases hfail : options.failOn = some phase
    · rw [if_neg hstall, if_pos hfail]
      exact ⟨fun _ => Or.inr hfail, fun _ => rfl⟩
    · rw [if_neg hstall, if_neg hfail]
      exact ⟨nofun, fun h => absurd h (not_or.mpr ⟨hstall, hfail⟩)⟩

/-- Where an answer is injected, nothing is done. -/
theorem deed_of_injected {route : Route} {phase : Phase}
    (hroute : Route.of request.method request.target = .ok route)
    (hphase : route.phase? = some phase)
    (h : options.stallOn = some phase ∨ options.failOn = some phase) :
    request.deed options = .nothing := by
  rw [Request.deed, hroute]
  dsimp only
  rw [hphase, Option.bind_some, if_pos (isSome_injected?_iff.mpr h)]

/-- What a route does is nothing only for gauges and malformed numbers. -/
theorem deed_eq_nothing {route : Route} (h : route.deed = .nothing) :
    (∃ name, route = .gauge name) ∨
      ∃ digits e, route = .seed (some digits) ∧ Text.readNat64 digits = .error e := by
  cases route with
  | gauge name => exact Or.inl ⟨name, rfl⟩
  | seed items =>
    rw [Route.deed] at h
    cases items with
    | none => cases h
    | some digits =>
      rw [seedItems] at h
      cases hdigits : Text.readNat64 digits with
      | ok n =>
        rw [hdigits] at h
        cases h
      | error e => exact Or.inr ⟨digits, e, rfl, hdigits⟩
  | _ => cases h

/-- **Idle requests** are those that do nothing. -/
theorem isIdle_iff : IsIdle options request ↔ request.deed options = .nothing := by
  constructor
  · rintro (hroute | ⟨hroute, hphase, h⟩ | ⟨hroute, hphase, h⟩ | ⟨hroute, h⟩ | hroute)
    · rw [Request.deed, hroute]
      rfl
    · exact deed_of_injected hroute hphase (Or.inl h)
    · exact deed_of_injected hroute hphase (Or.inr h)
    · rw [Request.deed, hroute]
      dsimp only
      rw [Route.deed, seedItems, h]
      exact ite_self _
    · rw [Request.deed, hroute]
  · intro h
    rw [Request.deed] at h
    rcases hroute : Route.of request.method request.target with dead | route
    · exact .dead hroute
    · rw [hroute] at h
      dsimp only at h
      split at h
      · next hinjected =>
        obtain ⟨phase, hphase⟩ : ∃ phase, route.phase? = some phase := by
          refine Option.ne_none_iff_exists'.mp fun hnone => ?_
          rw [hnone] at hinjected
          cases hinjected
        rw [hphase, Option.bind_some, isSome_injected?_iff] at hinjected
        exact hinjected.elim (.stalled hroute hphase) (.failed hroute hphase)
      · rcases deed_eq_nothing h with ⟨name, rfl⟩ | ⟨digits, e, rfl, hdigits⟩
        · exact .gauge hroute
        · exact .malformed hroute hdigits

instance (options : Options) : DecidablePred (IsIdle options) := fun _ =>
  decidable_of_iff _ isIdle_iff.symm

/-- **An idle request** leaves the run as it was. -/
theorem IsIdle.answer_run (h : IsIdle options request) (lab : Lab) :
    (lab.answer options request).2.run = lab.run := by
  rw [Lab.answer_run, isIdle_iff.mp h]
  rfl

/-! ### Leaving requests out -/

/-- Requests, one after the other, each with the response to it. -/
def exchanges (options : Options) (lab : Lab) : List Request → List (Request × Response)
  | [] => []
  | request :: requests =>
    (request, (lab.answer options request).1) ::
      exchanges options (lab.answer options request).2 requests

/-- The counters have no say in what is answered. -/
theorem exchanges_congr (h : lab.run = lab'.run) (requests : List Request) :
    exchanges options lab requests = exchanges options lab' requests := by
  induction requests generalizing lab lab' with
  | nil => rfl
  | cons request requests ih =>
    have hrun : (lab.answer options request).2.run = (lab'.answer options request).2.run := by
      rw [Lab.answer_run, Lab.answer_run, h]
    rw [exchanges, exchanges, answer_response, answer_response, h, ih hrun]

/-- **Leaving out idle requests** leaves all other answers as they are. -/
theorem exchanges_filter (options : Options) (lab : Lab) (requests : List Request) :
    (exchanges options lab requests).filter (fun exchange => ¬ IsIdle options exchange.1) =
      exchanges options lab (requests.filter fun request => ¬ IsIdle options request) := by
  induction requests generalizing lab with
  | nil => rfl
  | cons request requests ih =>
    rw [exchanges]
    by_cases hidle : IsIdle options request
    · rw [List.filter_cons_of_neg (by simpa using hidle), List.filter_cons_of_neg
        (by simpa using hidle), ih, exchanges_congr (hidle.answer_run lab)]
    · rw [List.filter_cons_of_pos (by simpa using hidle), List.filter_cons_of_pos
        (by simpa using hidle), ih, exchanges]

/-! ### Other times -/

/-- The same request, served at any time. -/
structure Request.SameButTime (request request' : Request) : Prop where
  method : request.method = request'.method
  target : request.target = request'.target

/-- Runs in which the same has happened, at any times. -/
structure Run.SameButTime (run run' : Run) : Prop where
  id : run.id = run'.id
  mode : run.mode = run'.mode
  items : run.items = run'.items
  pending : run.pending = run'.pending
  processing : run.processing = run'.processing
  done : run.done = run'.done
  startedAt : run.startedAt.isSome = run'.startedAt.isSome
  startedAtMs : run.startedAtMs.isSome = run'.startedAtMs.isSome
  finishedAtMs : run.finishedAtMs.isSome = run'.finishedAtMs.isSome
  drainTimeMs : run.drainTimeMs.isSome = run'.drainTimeMs.isSome

theorem Run.sameButTime_rfl (run : Run) : run.SameButTime run :=
  ⟨rfl, rfl, rfl, rfl, rfl, rfl, rfl, rfl, rfl, rfl⟩

/-- The fields of a report that depend on a clock. -/
def clockKeys : List String :=
  ["totalElapsedMs", "jobsPerMinute", "startedAtMs", "finishedAtMs", "drainTimeMs"]

/-- Those of them that are null until something has happened. -/
def stampKeys : List String := ["startedAtMs", "finishedAtMs", "drainTimeMs"]

/-- What two values of a field have in common, when a clock may have been read at other times. -/
structure ValueSameButTime (key : String) (value value' : Json) : Prop where
  eq : key ∉ clockKeys → value = value'
  isNull : key ∈ stampKeys → (value = .null ↔ value' = .null)

inductive Body.SameButTime : Body → Body → Prop where
  | same (body : Body) : Body.SameButTime body body
  | json {fields fields' : Json.Fields} (h : fields.Related ValueSameButTime fields') :
      Body.SameButTime (.json fields) (.json fields')

structure Response.SameButTime (response response' : Response) : Prop where
  status : response.status = response'.status
  body : response.body.SameButTime response'.body

theorem Response.sameButTime_rfl (response : Response) : response.SameButTime response :=
  ⟨rfl, .same _⟩

namespace Run

variable {run run' : Run}

theorem SameButTime.isDrained (h : run.SameButTime run') : run.isDrained = run'.isDrained := by
  rw [Run.isDrained, Run.isDrained, h.pending, h.processing]

theorem SameButTime.isFinished (h : run.SameButTime run') : run.isFinished = run'.isFinished := by
  rw [Run.isFinished, Run.isFinished, h.isDrained, h.mode]

theorem SameButTime.move (h : run.SameButTime run') (batch : Nat) :
    (run.move batch).SameButTime (run'.move batch) := by
  refine ⟨h.id, h.mode, h.items, ?_, ?_, ?_, h.startedAt, h.startedAtMs, h.finishedAtMs,
    h.drainTimeMs⟩
  · rw [Run.move, Run.move, h.pending]
  · rw [Run.move, Run.move, h.pending]
  · rw [Run.move, Run.move, h.done, h.processing]

/-- A run ends in the same step, though at another time. -/
theorem SameButTime.close (h : run.SameButTime run') (now now' : Nat) :
    (run.close now).SameButTime (run'.close now') := by
  have hdrained := h.isDrained
  have hstarted := h.startedAt
  have hfinished := h.finishedAtMs
  rcases close_cases now run with ⟨started, hat, hdone, hnone, hclose⟩ | ⟨hrest, hclose⟩ <;>
    rcases close_cases now' run' with
      ⟨started', hat', hdone', hnone', hclose'⟩ | ⟨hrest', hclose'⟩ <;>
    rw [hclose, hclose']
  · exact ⟨h.id, h.mode, h.items, h.pending, h.processing, h.done, h.startedAt, h.startedAtMs,
      rfl, rfl⟩
  · -- only one of the two would end
    rw [hat] at hstarted
    rw [hnone, hrest' hstarted.symm (hdrained ▸ hdone)] at hfinished
    cases hfinished
  · rw [hat'] at hstarted
    rw [hnone', hrest hstarted (hdrained ▸ hdone')] at hfinished
    cases hfinished
  · exact h

theorem SameButTime.advance (h : run.SameButTime run') (batch now now' : Nat) :
    (run.advance batch now).SameButTime (run'.advance batch now') := by
  rw [Run.advance, Run.advance, ← h.mode]
  cases run.mode with
  | none => exact h
  | some mode => exact (h.move batch).close now now'

/-- **Every deed** does the same at any time. -/
theorem SameButTime.perform (h : run.SameButTime run') (batch now now' : Nat) (deed : Deed) :
    (run.perform batch now deed).SameButTime (run'.perform batch now' deed) := by
  cases deed with
  | reset => exact ⟨h.id, rfl, rfl, h.pending, rfl, rfl, rfl, rfl, rfl, rfl⟩
  | seed items =>
    exact ⟨h.id, h.mode, h.items, congrArg (· + items) h.pending, h.processing, h.done, h.startedAt,
      h.startedAtMs, h.finishedAtMs, h.drainTimeMs⟩
  | dispatch mode =>
    exact ⟨congrArg (· + 1) h.id, rfl, h.pending, h.pending, h.processing, h.done, rfl, rfl,
      h.finishedAtMs, h.drainTimeMs⟩
  | report => exact h.advance batch now now'
  | nothing => exact h

end Run

/-! ### Answers at other times -/

namespace ValueSameButTime

theorem same (key : String) (value : Json) : ValueSameButTime key value value :=
  ⟨fun _ => rfl, fun _ => Iff.rfl⟩

/-- A time span, and what is computed from it, may be any other one. -/
theorem elapsed (key : String) (value value' : Json) (hkey : key ∈ clockKeys)
    (h : key ∉ stampKeys) : ValueSameButTime key value value' :=
  ⟨fun hnot => absurd hkey hnot, fun hstamp => absurd hstamp h⟩

/-- A time that may be missing is there on both sides. -/
theorem stamp {a a' : Option Nat} (key : String) (hkey : key ∈ clockKeys)
    (h : a.isSome = a'.isSome) :
    ValueSameButTime key (Run.orNull .ofNat a) (Run.orNull .ofNat a') := by
  refine ⟨fun hnot => absurd hkey hnot, fun _ => ?_⟩
  cases a <;> cases a'
  · exact Iff.rfl
  · cases h
  · cases h
  · exact ⟨nofun, nofun⟩

end ValueSameButTime

/-- **A report** of what has happened at other times differs in nothing but those. -/
theorem Run.SameButTime.report {run run' : Run} (h : run.SameButTime run') (options : Options) :
    (run.report options).Related ValueSameButTime (run'.report options) := by
  have herrors : run.errors options = run'.errors options := by
    rw [Run.errors, Run.errors, h.isFinished]
  have hretries : run.retries options = run'.retries options := by
    rw [Run.retries, Run.retries, h.isFinished]
  rw [Run.report, Run.report, h.id, h.mode, h.items, h.pending, h.processing, h.done, h.isDrained,
    herrors, hretries]
  refine Json.Fields.related_ofList ?_
  repeat' refine List.Forall₂.cons ⟨rfl, ?_⟩ ?_
  -- by now all values are the same but those that depend on a clock
  any_goals exact ValueSameButTime.same _ _
  · exact .elapsed "totalElapsedMs" _ _ (by decide) (by decide)
  · exact .elapsed "jobsPerMinute" _ _ (by decide) (by decide)
  · exact .stamp "startedAtMs" (by decide) h.startedAtMs
  · exact .stamp "finishedAtMs" (by decide) h.finishedAtMs
  · exact .stamp "drainTimeMs" (by decide) h.drainTimeMs
  · exact .nil

theorem gauge?_sameButTime {run run' : Run} (h : run.SameButTime run') (name : String) :
    gauge? run name = gauge? run' name := by
  have hused : usedHeap run = usedHeap run' := by
    rw [usedHeap, usedHeap, h.pending, h.processing]
  rw [gauge?, gauge?, committedHeap, committedHeap, hused]

/-- What a route answers at another time. -/
theorem serve_sameButTime {run run' : Run} (h : run.SameButTime run') (options : Options)
    (now now' : Nat) (route : Route) :
    (serve options now run route).1.SameButTime (serve options now' run' route).1 := by
  cases route with
  | reset => exact Response.sameButTime_rfl _
  | seed items =>
    rw [serve, serve]
    cases seedItems items <;> exact Response.sameButTime_rfl _
  | dispatch mode =>
    rw [serve, serve, h.pending]
    exact Response.sameButTime_rfl _
  | report => exact ⟨rfl, .json ((h.advance _ now now').report options)⟩
  | gauge name =>
    rw [serve, serve, gauge?_sameButTime h]
    cases (if options.heapMetrics then gauge? run' name else none) <;>
      exact Response.sameButTime_rfl _

/-- **One answer** at another time, from a lab where the same has happened. -/
theorem answer_sameButTime (hrun : lab.run.SameButTime lab'.run)
    (h : request.SameButTime request') :
    (lab.answer options request).1.SameButTime (lab'.answer options request').1 ∧
      (lab.answer options request).2.run.SameButTime (lab'.answer options request').2.run := by
  obtain ⟨time, method, target⟩ := request
  obtain ⟨time', method', target'⟩ := request'
  obtain rfl : method = method' := h.method
  obtain rfl : target = target' := h.target
  constructor
  · rw [answer_response, answer_response, Request.response, Request.response]
    dsimp only
    cases Route.of method target with
    | error dead => exact Response.sameButTime_rfl _
    | ok route =>
      dsimp only
      have hresponse : ((route.phase?.bind (injected? options)).getD
          (serve options time lab.run route).1).SameButTime
            ((route.phase?.bind (injected? options)).getD
              (serve options time' lab'.run route).1) := by
        cases route.phase?.bind (injected? options) with
        | some response => exact Response.sameButTime_rfl _
        | none => exact serve_sameButTime hrun options time time' route
      by_cases hhead : method = "HEAD"
      · rw [if_pos hhead, if_pos hhead, hresponse.status]
        exact Response.sameButTime_rfl _
      · rw [if_neg hhead, if_neg hhead]
        exact hresponse
  · rw [Lab.answer_run, Lab.answer_run]
    exact hrun.perform _ _ _ _

/-- **Serving requests at other times** changes nothing in what is answered but those times. -/
theorem exchanges_sameButTime {requests requests' : List Request}
    (hrun : lab.run.SameButTime lab'.run)
    (h : List.Forall₂ Request.SameButTime requests requests') :
    List.Forall₂
      (fun exchange exchange' => exchange.1.SameButTime exchange'.1 ∧
        exchange.2.SameButTime exchange'.2)
      (exchanges options lab requests) (exchanges options lab' requests') := by
  induction h generalizing lab lab' with
  | nil => exact .nil
  | cons hrequest hrequests ih =>
    obtain ⟨hanswer, hnext⟩ := answer_sameButTime hrun hrequest
    exact .cons ⟨hrequest, hanswer⟩ (ih hnext)

/-! ### Counters -/

/-- The counters of a lab, one for each endpoint. -/
inductive Counter where
  | resets
  | seeds
  | dispatches
  | reports
  | metricFetches
deriving DecidableEq

def Counters.get (counters : Counters) : Counter → Nat
  | .resets => counters.resets
  | .seeds => counters.seeds
  | .dispatches => counters.dispatches
  | .reports => counters.reports
  | .metricFetches => counters.metricFetches

theorem Counters.eq_of_get {counters counters' : Counters}
    (h : ∀ counter, counters.get counter = counters'.get counter) : counters = counters' := by
  obtain ⟨resets, seeds, dispatches, reports, metricFetches⟩ := counters
  rw [Counters.mk.injEq]
  exact ⟨h .resets, h .seeds, h .dispatches, h .reports, h .metricFetches⟩

/-- The counter of the endpoint that a route leads to. -/
def Route.counter : Route → Counter
  | .reset => .resets
  | .seed _ => .seeds
  | .dispatch _ => .dispatches
  | .report => .reports
  | .gauge _ => .metricFetches

/-- The counter of the endpoint that a request comes to, if it comes to any. -/
def Request.counter? (request : Request) : Option Counter :=
  match Route.of request.method request.target with
  | .error _ => none
  | .ok route => some route.counter

theorem get_count (lab : Lab) (route : Route) (counter : Counter) :
    (lab.count route).counters.get counter =
      lab.counters.get counter + if route.counter = counter then 1 else 0 := by
  cases route <;> cases counter <;> rfl

/-- **A request is counted** once, at the endpoint it comes to. -/
theorem counters_answer (options : Options) (lab : Lab) (request : Request) (counter : Counter) :
    (lab.answer options request).2.counters.get counter =
      lab.counters.get counter + if request.counter? = some counter then 1 else 0 := by
  rw [answer, respond, Request.counter?]
  cases Route.of request.method request.target with
  | error dead => rfl
  | ok route =>
    dsimp only
    have hcounters : (lab.follow options request.time route).2.counters =
        (lab.count route).counters := by
      rw [follow]
      cases route.phase?.bind (injected? options) <;> rfl
    rw [hcounters, get_count]
    simp only [Option.some.injEq]

theorem counters_after (history : List Request) (counter : Counter) :
    (after options history).counters.get counter =
      history.countP fun request => request.counter? = some counter := by
  induction history using List.reverseRecOn with
  | nil => cases counter <;> rfl
  | append_singleton history request ih =>
    rw [after_concat, counters_answer, ih, List.countP_append, List.countP_singleton]
    simp only [decide_eq_true_eq]

/-! ### All together -/

/-- What is known of the requests that change nothing, and of those that do. -/
structure Isolated (options : Options) : Prop where
  /-- An idle request leaves the run as it was. -/
  keeps : ∀ (lab : Lab) (request : Request), IsIdle options request →
    (lab.answer options request).2.run = lab.run
  /-- Every other request is answered with success, and with neither an injected text nor a body
  that stalls. -/
  carried : ∀ (lab : Lab) (request : Request), ¬ IsIdle options request →
    (lab.answer options request).1 = .empty 200 ∨
      ∃ fields, (lab.answer options request).1 = ⟨200, .json fields⟩
  /-- Without the idle requests, all others are answered as before. -/
  removed : ∀ (lab : Lab) (requests : List Request),
    (exchanges options lab requests).filter (fun exchange => ¬ IsIdle options exchange.1) =
      exchanges options lab (requests.filter fun request => ¬ IsIdle options request)
  /-- That is so even if the others are then served at other times, but for what clocks set. -/
  retimed : ∀ (lab : Lab) (requests requests' : List Request),
    List.Forall₂ Request.SameButTime
        (requests.filter fun request => ¬ IsIdle options request) requests' →
      List.Forall₂
        (fun exchange exchange' => exchange.1.SameButTime exchange'.1 ∧
          exchange.2.SameButTime exchange'.2)
        ((exchanges options lab requests).filter fun exchange => ¬ IsIdle options exchange.1)
        (exchanges options lab requests')
  /-- A counter tells how many requests have come to its endpoint. -/
  counted : ∀ (history : List Request) (counter : Counter),
    (after options history).counters.get counter =
      history.countP fun request => request.counter? = some counter
  /-- A request raises at most one counter, and by one. -/
  once : ∀ (lab : Lab) (request : Request),
    (lab.answer options request).2.counters = lab.counters ∨
      ∃ counter, (lab.answer options request).2.counters.get counter =
          lab.counters.get counter + 1 ∧
        ∀ other ≠ counter,
          (lab.answer options request).2.counters.get other = lab.counters.get other

/-- **Failures are isolated**: gauges, injected failures, bodies that stall, malformed numbers and
requests that lead nowhere leave the run of a lab as it was, so without them all other requests are
answered as before, whenever they are served; but they are counted like all others. -/
theorem failures_isolated (options : Options) : Isolated options := by
  constructor
  · intro lab request hidle
    exact hidle.answer_run lab
  · intro lab request hidle
    exact answer_of_deed options lab (isIdle_iff.not.mp hidle)
  · exact exchanges_filter options
  · intro lab requests requests' h
    rw [exchanges_filter]
    exact exchanges_sameButTime lab.run.sameButTime_rfl h
  · exact counters_after
  · intro lab request
    have hcounters := counters_answer options lab request
    rcases hcounter : request.counter? with _ | counter
    · refine Or.inl (Counters.eq_of_get fun other => ?_)
      rw [hcounters, hcounter, if_neg nofun, Nat.add_zero]
    · refine Or.inr ⟨counter, ?_, fun other hother => ?_⟩
      · rw [hcounters, hcounter, if_pos rfl]
      · rw [hcounters, hcounter, if_neg fun h => hother (Option.some.inj h).symm, Nat.add_zero]

end QueueDrain.Lab
