import Mathlib.Algebra.GroupWithZero.Nat
import Mathlib.Data.List.DropRight
import QueueDrain.Lab.Service
import QueueDrain.Proofs.Json.Fields
import QueueDrain.Proofs.Lab.Drain

/-!
What a history of requests makes of the jobs of a lab.

Of all that a request can ask for, only a few things are done to the run (`Deed`), and nothing at
all where an answer is injected, where a number is malformed, or where a request leads nowhere.  One
deed moves jobs on, adds some, or drops those that are done and in work (`Run.moves_perform`); so
after any history every job is there that was pending at the last reset or has been seeded since
(`history_conserves`).

Design notes: the requests come from any number of clients, and a lab serves them one at a time, so
a history is a list; their times need not ascend.
-/

namespace QueueDrain.Lab

/-- A request, and when it is served. -/
structure Request where
  time : Nat
  method : String
  target : String

/-- What a request does to the run of a lab. -/
inductive Deed where
  | reset
  | seed (items : Nat)
  | dispatch (mode : Mode)
  /-- A report is also a step of the simulation. -/
  | report
  | nothing
deriving DecidableEq

namespace Deed

def isReset : Deed → Bool
  | .reset => true
  | _ => false

def isDispatch : Deed → Bool
  | .dispatch _ => true
  | _ => false

/-- The jobs that are seeded. -/
def seeds : Deed → Nat
  | .seed items => items
  | _ => 0

end Deed

/-- What a route does, when nothing is injected. -/
def Route.deed : Route → Deed
  | .reset => .reset
  | .seed items =>
    match seedItems items with
    | .ok n => .seed n
    | .error _ => .nothing
  | .dispatch mode => .dispatch mode
  | .report => .report
  | .gauge _ => .nothing

/-- What a request does. -/
def Request.deed (options : Options) (request : Request) : Deed :=
  match Route.of request.method request.target with
  | .error _ => .nothing
  | .ok route => if (route.phase?.bind (injected? options)).isSome then .nothing else route.deed

/-- What is answered to a request; it depends on nothing but the run. -/
def Request.response (options : Options) (request : Request) (run : Run) : Response :=
  match Route.of request.method request.target with
  | .error dead => dead.response
  | .ok route =>
    let response := (route.phase?.bind (injected? options)).getD
      (serve options request.time run route).1
    if request.method = "HEAD" then .empty response.status else response

/-- What a lab answers to a request, and what becomes of it. -/
def answer (options : Options) (lab : Lab) (request : Request) : Response × Lab :=
  lab.respond options request.time request.method request.target

/-! ### One request -/

namespace Run

/-- All jobs of a run. -/
def jobs (run : Run) : Nat := run.pending + run.processing + run.done

/-- The run after a deed. -/
def perform (batch now : Nat) (run : Run) : Deed → Run
  | .reset => run.reset
  | .seed items => run.seed items
  | .dispatch mode => run.start mode now
  | .report => run.advance batch now
  | .nothing => run

/-- What a deed does to the jobs of a run. -/
structure Moves (batch : Nat) (deed : Deed) (run run' : Run) : Prop where
  jobs : ¬ deed.isReset → run'.jobs = run.jobs + deed.seeds
  done_le : ¬ deed.isReset → run.done ≤ run'.done
  reset : deed.isReset → run'.pending = run.pending ∧ run'.processing = 0 ∧ run'.done = 0
  processing_le : run.processing ≤ batch → run'.processing ≤ batch
  id : run'.id = run.id + if deed.isDispatch then 1 else 0

theorem moves_same (batch : Nat) (run : Run) {deed : Deed} (hreset : ¬ deed.isReset)
    (hseeds : deed.seeds = 0) (hdispatch : ¬ deed.isDispatch) : Moves batch deed run run where
  jobs _ := by rw [hseeds, Nat.add_zero]
  done_le _ := le_refl _
  reset h := absurd h hreset
  processing_le h := h
  id := by rw [if_neg hdispatch, Nat.add_zero]

/-- A step moves jobs on. -/
theorem moves_advance (batch now : Nat) (run : Run) :
    Moves batch .report run (run.advance batch now) := by
  cases hmode : run.mode with
  | none =>
    rw [advance_of_mode_eq_none hmode]
    exact moves_same batch run (by decide) rfl (by decide)
  | some mode =>
    have hsome : run.mode.isSome := by rw [hmode]; rfl
    have hstep := advance_of_mode hsome batch now
    have hpending := hstep.pending
    have hprocessing := hstep.processing
    have hdone := hstep.done
    constructor
    · intro _
      have hseeds : Deed.report.seeds = 0 := rfl
      rw [jobs, jobs, hpending, hprocessing, hdone, hseeds]
      omega
    · intro _
      omega
    · intro h
      cases h
    · intro _
      omega
    · exact hstep.id

/-- **Every deed** moves jobs on, adds some, or drops those that are not pending. -/
theorem moves_perform (batch now : Nat) (run : Run) (deed : Deed) :
    Moves batch deed run (run.perform batch now deed) := by
  cases deed with
  | reset =>
    constructor
    · intro h
      exact absurd rfl h
    · intro h
      exact absurd rfl h
    · intro _
      exact ⟨rfl, rfl, rfl⟩
    · intro _
      exact Nat.zero_le batch
    · rfl
  | seed items =>
    constructor
    · intro _
      simp only [perform, seed, jobs, Deed.seeds]
      omega
    · intro _
      exact le_refl _
    · intro h
      cases h
    · intro h
      exact h
    · rfl
  | dispatch mode =>
    constructor
    · intro _
      rfl
    · intro _
      exact le_refl _
    · intro h
      cases h
    · intro h
      exact h
    · rfl
  | report => exact moves_advance batch now run
  | nothing => exact moves_same batch run (by decide) rfl (by decide)

end Run

variable (options : Options)

/-- Counting a request leaves the run alone. -/
theorem run_count (lab : Lab) (route : Route) : (lab.count route).run = lab.run := by
  cases route <;> rfl

/-- **A request does its deed**, and nothing else to the run. -/
theorem answer_run (lab : Lab) (request : Request) :
    (lab.answer options request).2.run =
      lab.run.perform options.drainPerReport request.time (request.deed options) := by
  rw [answer, respond, Request.deed]
  cases Route.of request.method request.target with
  | error dead => rfl
  | ok route =>
    dsimp only
    rw [follow]
    cases route.phase?.bind (injected? options) with
    | some response => exact run_count lab route
    | none =>
      simp only [run_count]
      cases route with
      | reset => rfl
      | seed items =>
        rw [serve, Route.deed]
        cases seedItems items <;> rfl
      | dispatch mode => rfl
      | report => rfl
      | gauge name =>
        rw [serve, Route.deed]
        cases (if options.heapMetrics then gauge? lab.run name else none) <;> rfl

theorem answer_response (lab : Lab) (request : Request) :
    (lab.answer options request).1 = request.response options lab.run := by
  rw [answer, respond, Request.response]
  cases Route.of request.method request.target with
  | error dead => rfl
  | ok route =>
    dsimp only
    rw [follow]
    cases route.phase?.bind (injected? options) with
    | some response => rfl
    | none =>
      dsimp only
      rw [run_count, Option.getD_none]

/-- What is known of a request that is carried out. -/
theorem exists_route_of_deed {request : Request} (h : request.deed options ≠ .nothing) :
    ∃ route, Route.of request.method request.target = .ok route ∧
      route.phase?.bind (injected? options) = none ∧ request.deed options = route.deed := by
  rw [Request.deed] at h ⊢
  cases hroute : Route.of request.method request.target with
  | error dead => exact absurd (by rw [hroute]) h
  | ok route =>
    rw [hroute] at h
    dsimp only at h ⊢
    cases hinjected : route.phase?.bind (injected? options) with
    | some response => exact absurd (by rw [hinjected]; rfl) h
    | none => exact ⟨route, rfl, hinjected, rfl⟩

/-- Whatever is carried out is answered as such, with a document or with nothing. -/
theorem answer_of_deed (lab : Lab) {request : Request} (h : request.deed options ≠ .nothing) :
    (lab.answer options request).1 = .empty 200 ∨
      ∃ fields, (lab.answer options request).1 = ⟨200, .json fields⟩ := by
  obtain ⟨route, hroute, hinjected, hdeed⟩ := exists_route_of_deed options h
  rw [hdeed] at h
  have hserve : (serve options request.time lab.run route).1 = .empty 200 ∨
      ∃ fields, (serve options request.time lab.run route).1 = ⟨200, .json fields⟩ := by
    cases route with
    | reset => exact Or.inl rfl
    | seed items =>
      rw [Route.deed] at h
      rw [serve]
      cases hitems : seedItems items with
      | ok n => exact Or.inr ⟨_, rfl⟩
      | error e =>
        rw [hitems] at h
        exact absurd rfl h
    | dispatch mode => exact Or.inr ⟨_, rfl⟩
    | report => exact Or.inr ⟨_, rfl⟩
    | gauge name => exact absurd rfl h
  rw [answer_response, Request.response, hroute]
  dsimp only
  rw [hinjected, Option.getD_none]
  by_cases hhead : request.method = "HEAD"
  · rw [if_pos hhead]
    rcases hserve with hserve | ⟨fields, hserve⟩ <;>
      · rw [hserve]
        exact Or.inl rfl
  · rw [if_neg hhead]
    exact hserve

theorem status_of_deed (lab : Lab) {request : Request} (h : request.deed options ≠ .nothing) :
    (lab.answer options request).1.status = 200 := by
  rcases answer_of_deed options lab h with hanswer | ⟨fields, hanswer⟩ <;> rw [hanswer]
  rfl

/-- Nothing but a request for a report is a step. -/
theorem eq_report_of_deed {route : Route} (h : route.deed = .report) : route = .report := by
  cases route with
  | report => rfl
  | seed items =>
    rw [Route.deed] at h
    cases hitems : seedItems items <;> rw [hitems] at h <;> cases h
  | _ => cases h

/-- **A report shows the run** after its step. -/
theorem answer_report (lab : Lab) {request : Request} (h : request.deed options = .report)
    (hmethod : request.method ≠ "HEAD") :
    (lab.answer options request).1 =
      ⟨200, .json ((lab.answer options request).2.run.report options)⟩ := by
  have hcarried : request.deed options ≠ .nothing := by
    rw [h]
    decide
  obtain ⟨route, hroute, hinjected, hdeed⟩ := exists_route_of_deed options hcarried
  obtain rfl := eq_report_of_deed (hdeed.symm.trans h)
  rw [answer_response, Request.response, hroute, answer_run, h]
  dsimp only
  rw [hinjected, Option.getD_none, if_neg hmethod]
  rfl

/-! ### Histories -/

/-- A new lab after some requests, one after the other. -/
def after (history : List Request) : Lab :=
  history.foldl (fun lab request => (lab.answer options request).2) {}

/-- The requests up to the last reset. -/
def untilReset (history : List Request) : List Request :=
  history.rdropWhile fun request => !(request.deed options).isReset

/-- The requests since the last reset; all of them, if there was none. -/
def sinceReset (history : List Request) : List Request :=
  history.rtakeWhile fun request => !(request.deed options).isReset

/-- The jobs that some requests seed. -/
def seeded (requests : List Request) : Nat := (requests.map fun r => (r.deed options).seeds).sum

/-- The dispatches among some requests. -/
def dispatches (requests : List Request) : Nat :=
  requests.countP fun r => (r.deed options).isDispatch

variable {options} {history : List Request} {request : Request}

theorem after_concat (history : List Request) (request : Request) :
    after options (history ++ [request]) = ((after options history).answer options request).2 :=
  List.foldl_concat _ _ _ _

/-- One request more. -/
theorem after_moves (options : Options) (history : List Request) (request : Request) :
    Run.Moves options.drainPerReport (request.deed options) (after options history).run
      (after options (history ++ [request])).run := by
  rw [after_concat, answer_run]
  exact Run.moves_perform _ _ _ _

/-- **No job is lost, and none comes from nowhere**: all were pending at the last reset, or have
been seeded since. -/
theorem jobs_after (history : List Request) :
    (after options history).run.jobs =
      (after options (untilReset options history)).run.pending +
        seeded options (sinceReset options history) := by
  induction history using List.reverseRecOn with
  | nil => rfl
  | append_singleton history request ih =>
    have hmoves := after_moves options history request
    by_cases hreset : (request.deed options).isReset
    · -- the history ends with its last reset
      obtain ⟨hpending, hprocessing, hdone⟩ := hmoves.reset hreset
      rw [untilReset, sinceReset, List.rdropWhile_concat_neg _ _ _ (by simp [hreset]),
        List.rtakeWhile_concat_neg _ _ _ (by simp [hreset]), Run.jobs, hprocessing, hdone]
      rfl
    · rw [untilReset, sinceReset, List.rdropWhile_concat_pos _ _ _ (by simp [hreset]),
        List.rtakeWhile_concat_pos _ _ _ (by simp [hreset]), hmoves.jobs hreset, ih, seeded, seeded,
        List.map_append, List.sum_append, Nat.add_assoc]
      rfl

theorem processing_after_le (history : List Request) :
    (after options history).run.processing ≤ options.drainPerReport := by
  induction history using List.reverseRecOn with
  | nil => exact Nat.zero_le _
  | append_singleton history request ih =>
    exact (after_moves options history request).processing_le ih

theorem id_after (history : List Request) :
    (after options history).run.id = dispatches options history := by
  induction history using List.reverseRecOn with
  | nil => rfl
  | append_singleton history request ih =>
    rw [(after_moves options history request).id, ih, dispatches, dispatches, List.countP_append,
      List.countP_singleton]

/-- What a report of a run says of its jobs. -/
structure ShowsJobs (fields : Json.Fields) (run : Run) : Prop where
  pending : fields.get? "pending" = some (.ofNat run.pending)
  processing : fields.get? "processing" = some (.ofNat run.processing)
  done : fields.get? "done" = some (.ofNat run.done)
  totalProcessed : fields.get? "totalProcessed" = some (.ofNat run.done)

theorem showsJobs_report (options : Options) (run : Run) : ShowsJobs (run.report options) run := by
  constructor <;>
    · rw [Run.report, Json.Fields.get?_ofList]
      rfl

/-- What is known of the jobs of a lab after a history, and of what the next request does. -/
structure Conserves (options : Options) (history : List Request) : Prop where
  /-- Every job was pending after the last reset, or has been seeded since. -/
  jobs : (after options history).run.jobs =
    (after options (untilReset options history)).run.pending +
      seeded options (sinceReset options history)
  processing_le : (after options history).run.processing ≤ options.drainPerReport
  id : (after options history).run.id = dispatches options history
  /-- A reset keeps the pending jobs, and drops exactly those that are in work and done. -/
  reset : ∀ request : Request, (request.deed options).isReset →
    (after options (history ++ [request])).run.pending = (after options history).run.pending ∧
      (after options (history ++ [request])).run.jobs +
        ((after options history).run.processing + (after options history).run.done) =
          (after options history).run.jobs
  /-- Nothing but a reset takes back what is done. -/
  done_le : ∀ request : Request, ¬ (request.deed options).isReset →
    (after options history).run.done ≤ (after options (history ++ [request])).run.done
  /-- A report shows the jobs as they are after it. -/
  report : ∀ request : Request, request.deed options = .report → request.method ≠ "HEAD" →
    ∃ fields, ((after options history).answer options request).1 = ⟨200, .json fields⟩ ∧
      ShowsJobs fields (after options (history ++ [request])).run
  /-- What is carried out is answered as such. -/
  success : ∀ request : Request, request.deed options ≠ .nothing →
    ((after options history).answer options request).1.status = 200

/-- **The jobs of a lab are conserved** over every history of requests.  There are as many as were
pending after the last reset and have been seeded since; a reset keeps the pending ones and drops
the others, and nothing else takes back what is done; no more are in work than a report takes up,
every dispatch counts, and every report shows just these numbers. -/
theorem history_conserves (options : Options) (history : List Request) :
    Conserves options history := by
  constructor
  · exact jobs_after history
  · exact processing_after_le history
  · exact id_after history
  · intro request hreset
    obtain ⟨hpending, hprocessing, hdone⟩ := (after_moves options history request).reset hreset
    rw [Run.jobs, Run.jobs, hpending, hprocessing, hdone]
    exact ⟨rfl, by omega⟩
  · intro request hreset
    exact (after_moves options history request).done_le hreset
  · intro request hreport hmethod
    refine ⟨_, answer_report options _ hreport hmethod, ?_⟩
    rw [after_concat]
    exact showsJobs_report options _
  · intro request hdeed
    exact status_of_deed options _ hdeed

end QueueDrain.Lab
