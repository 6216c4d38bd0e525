import QueueDrain.Proofs.Lab.History

/-!
Reports of a lab make sense, whatever was asked of it before.

A report puts together what a dispatch, an end and the steps in between have left behind, each in a
field of its own.  The fields fit together (`Coherent`) because every request keeps the values that
belong together linked (`Run.Linked.perform`), so that they are linked after any requests
(`linked_after`), and because a step that leaves no job takes note of the end.  Once a report has
said that the run is done, there is nothing left that another step could change (`Run.Settled`), so
every further report is the same until something new is asked for; `reports_consistent` says all
this.

Design notes: a report is told by what is asked for and what is answered (`GivesReport`), so it does
not matter here why other requests for a report are answered with something else.
-/

namespace QueueDrain.Lab

/-- Deeds that change what there is to do: all but reports. -/
def Deed.isCommand : Deed → Bool
  | .reset | .seed _ | .dispatch _ => true
  | _ => false

/-! ### Runs -/

namespace Run

variable {run : Run} {batch now : Nat}

/-- Which values of a run are there together, and which only after others. -/
structure Linked (run : Run) : Prop where
  /-- A dispatch sets the mode and both times. -/
  startedAt : run.startedAt.isSome ↔ run.mode.isSome
  startedAtMs : run.startedAtMs.isSome ↔ run.mode.isSome
  /-- The end sets both its values. -/
  drainTimeMs : run.drainTimeMs.isSome ↔ run.finishedAtMs.isSome
  /-- There is no end without a dispatch, though it may be that of an earlier one. -/
  finish : run.finishedAtMs.isSome → run.mode.isSome
  /-- Nor is there any work. -/
  work : 0 < run.processing ∨ 0 < run.done → run.mode.isSome

/-- After a reset there is nothing to be linked. -/
theorem linked_reset (run : Run) : run.reset.Linked where
  startedAt := Iff.rfl
  startedAtMs := Iff.rfl
  drainTimeMs := Iff.rfl
  finish := nofun
  work := by
    rintro (hprocessing | hdone)
    · exact absurd hprocessing (Nat.lt_irrefl 0)
    · exact absurd hdone (Nat.lt_irrefl 0)

/-- A step keeps the values of a run linked. -/
theorem Linked.advance (h : run.Linked) (batch now : Nat) : (run.advance batch now).Linked := by
  rcases hmode : run.mode with _ | mode
  · rw [advance_of_mode_eq_none hmode]
    exact h
  · have hsome : run.mode.isSome := by
      rw [hmode]
      rfl
    have hstep := advance_of_mode hsome batch now
    refine ⟨?_, ?_, ?_, fun _ => hstep.mode ▸ hsome, fun _ => hstep.mode ▸ hsome⟩
    · rw [hstep.startedAt, hstep.mode]
      exact h.startedAt
    · rw [hstep.startedAtMs, hstep.mode]
      exact h.startedAtMs
    · rcases hstep.finish with ⟨hfinished, hdrain⟩ | ⟨-, hfinished, started, -, hdrain⟩
      · rw [hfinished, hdrain]
        exact h.drainTimeMs
      · rw [hfinished, hdrain]
        exact Iff.rfl

/-- **Every deed** keeps the values of a run linked. -/
theorem Linked.perform (h : run.Linked) (batch now : Nat) (deed : Deed) :
    (run.perform batch now deed).Linked := by
  cases deed with
  | reset => exact linked_reset run
  | seed items => exact ⟨h.startedAt, h.startedAtMs, h.drainTimeMs, h.finish, h.work⟩
  | dispatch mode => exact ⟨Iff.rfl, Iff.rfl, h.drainTimeMs, fun _ => rfl, fun _ => rfl⟩
  | report => exact h.advance batch now
  | nothing => exact h

/-- No job is left of a run, and if it has been dispatched, its end is known. -/
structure Settled (run : Run) : Prop where
  drained : run.isDrained
  finish : run.mode.isSome → run.finishedAtMs.isSome

/-- The end is known as soon as a step leaves no job, since the dispatch has left its time. -/
theorem Linked.settled_advance (hlinked : run.Linked) (h : (run.advance batch now).isDrained) :
    (run.advance batch now).Settled := by
  refine ⟨h, fun hsome => ?_⟩
  rcases hmode : run.mode with _ | mode
  · rw [advance_of_mode_eq_none hmode, hmode] at hsome
    cases hsome
  · have hdispatched : run.mode.isSome := by
      rw [hmode]
      rfl
    exact (advance_of_mode hdispatched batch now).settles (hlinked.startedAt.mpr hdispatched) h

/-- **Nothing more happens** to a settled run. -/
theorem Settled.advance (h : run.Settled) (batch now : Nat) : run.advance batch now = run := by
  obtain ⟨hpending, hprocessing⟩ := (isDrained_iff run).mp h.drained
  have hmove : run.move batch = run := by
    obtain ⟨id, mode, items, pending, processing⟩ := run
    obtain rfl : pending = 0 := hpending
    obtain rfl : processing = 0 := hprocessing
    rw [move, Nat.min_zero, Nat.sub_zero, Nat.add_zero]
  rcases hmode : run.mode with _ | mode
  · exact advance_of_mode_eq_none hmode batch now
  · have hfinish := h.finish (by rw [hmode]; rfl)
    rw [Run.advance, hmode]
    dsimp only
    rw [hmove]
    rcases close_cases now run with ⟨started, -, -, hnone, -⟩ | ⟨-, hclose⟩
    · rw [hnone] at hfinish
      cases hfinish
    · exact hclose

theorem Settled.perform (h : run.Settled) (batch now : Nat) {deed : Deed}
    (hdeed : ¬ deed.isCommand) : run.perform batch now deed = run := by
  cases deed with
  | report => exact h.advance batch now
  | nothing => rfl
  | reset => exact absurd rfl hdeed
  | seed items => exact absurd rfl hdeed
  | dispatch mode => exact absurd rfl hdeed

end Run

/-! ### Documents -/

/-- A field is there, and it is null. -/
def IsNull (fields : Json.Fields) (key : String) : Prop := fields.get? key = some .null

/-- A field is there, and it is not null. -/
def IsSet (fields : Json.Fields) (key : String) : Prop :=
  ∃ value, fields.get? key = some value ∧ value ≠ .null

theorem IsNull.not_isSet {fields : Json.Fields} {key : String} (h : IsNull fields key) :
    ¬ IsSet fields key := by
  rintro ⟨value, hvalue, hne⟩
  exact hne (Option.some.inj (hvalue.symm.trans h))

/-- The fields of a report that a dispatch sets. -/
def startKeys : List String := ["mode", "runId", "startedAtMs"]

/-- The fields of a report that the end of a run sets. -/
def finishKeys : List String := ["finishedAtMs", "drainTimeMs"]

def errorKeys : List String := ["error", "totalErrors", "failCount"]

def retryKeys : List String := ["totalRetryScheduled", "retryCount"]

/-- A report says that the run is done, and which mode it had. -/
def SaysFinished (fields : Json.Fields) : Prop :=
  fields.get? "runDone" = some (.bool true) ∧ IsSet fields "mode"

/-- How the fields of a report fit together that shows so many jobs. -/
structure Coherent (options : Options) (fields : Json.Fields) (pending processing done : Nat) :
    Prop where
  shows_pending : fields.get? "pending" = some (.ofNat pending)
  shows_processing : fields.get? "processing" = some (.ofNat processing)
  shows_done : fields.get? "done" = some (.ofNat done)
  /-- What a dispatch sets is there, or nothing of it is. -/
  start : (∀ key ∈ startKeys, IsNull fields key) ∨ ∀ key ∈ startKeys, IsSet fields key
  /-- What the end sets is there after a dispatch, or nothing of it is. -/
  finish : (∀ key ∈ finishKeys, IsNull fields key) ∨
    (∀ key ∈ finishKeys, IsSet fields key) ∧ IsSet fields "mode"
  /-- There is no work without a dispatch. -/
  work : 0 < processing ∨ 0 < done → IsSet fields "mode"
  runDone : fields.get? "runDone" = some (.bool (pending = 0 ∧ processing = 0))
  /-- A run that is done and had a mode has ended, with the errors and retries that are due. -/
  finished : SaysFinished fields → IsSet fields "finishedAtMs" ∧
    (∀ key ∈ errorKeys, fields.get? key = some (.ofNat options.errorsPerRun)) ∧
      ∀ key ∈ retryKeys, fields.get? key = some (.ofNat options.retriesPerRun)
  /-- No other run has any. -/
  unfinished : ¬ SaysFinished fields →
    ∀ key ∈ errorKeys ++ retryKeys, fields.get? key = some (.ofNat 0)

namespace Run

/-- Under a key the fields show what is in an option, and null if nothing is. -/
def ShowsOption {α : Type} (fields : Json.Fields) (key : String) (a : Option α) : Prop :=
  ∃ encode : α → Json, (∀ x, encode x ≠ .null) ∧ fields.get? key = some (orNull encode a)

namespace ShowsOption

variable {α : Type} {fields : Json.Fields} {key : String} {a : Option α}

theorem isNull (h : ShowsOption fields key a) (hnone : ¬ a.isSome) : IsNull fields key := by
  obtain ⟨encode, -, hget⟩ := h
  rw [Option.not_isSome_iff_eq_none.mp hnone] at hget
  exact hget

theorem isSet_iff (h : ShowsOption fields key a) : IsSet fields key ↔ a.isSome := by
  cases ha : a with
  | none => exact iff_of_false (h.isNull (by simp [ha])).not_isSet nofun
  | some x =>
    obtain ⟨encode, hencode, hget⟩ := h
    rw [ha] at hget
    exact iff_of_true ⟨encode x, hget, hencode x⟩ rfl

end ShowsOption

/-- What a report of a run shows besides the jobs, field by field. -/
structure ShowsState (options : Options) (fields : Json.Fields) (run : Run) : Prop where
  mode : ShowsOption fields "mode" run.mode
  runId : ShowsOption fields "runId" run.mode
  startedAtMs : ShowsOption fields "startedAtMs" run.startedAtMs
  finishedAtMs : ShowsOption fields "finishedAtMs" run.finishedAtMs
  drainTimeMs : ShowsOption fields "drainTimeMs" run.drainTimeMs
  runDone : fields.get? "runDone" = some (.bool run.isDrained)
  errors : ∀ key ∈ errorKeys, fields.get? key = some (.ofNat (run.errors options))
  retries : ∀ key ∈ retryKeys, fields.get? key = some (.ofNat (run.retries options))

theorem showsState_report (options : Options) (run : Run) :
    ShowsState options (run.report options) run := by
  have hstring : ∀ s, Json.string s ≠ .null := nofun
  have hnumber : ∀ n, Json.ofNat n ≠ .null := nofun
  rw [Run.report]
  constructor
  case mode => exact ⟨_, fun m => hstring m.name, Json.Fields.get?_ofList _ _⟩
  case runId => exact ⟨fun _ => _, fun _ => hstring _, Json.Fields.get?_ofList _ _⟩
  case startedAtMs => exact ⟨_, hnumber, Json.Fields.get?_ofList _ _⟩
  case finishedAtMs => exact ⟨_, hnumber, Json.Fields.get?_ofList _ _⟩
  case drainTimeMs => exact ⟨_, hnumber, Json.Fields.get?_ofList _ _⟩
  case runDone =>
    rw [Json.Fields.get?_ofList]
    rfl
  case errors =>
    simp only [errorKeys, List.forall_mem_cons, Json.Fields.get?_ofList]
    exact ⟨rfl, rfl, rfl, List.forall_mem_nil _⟩
  case retries =>
    simp only [retryKeys, List.forall_mem_cons, Json.Fields.get?_ofList]
    exact ⟨rfl, rfl, List.forall_mem_nil _⟩

variable {options : Options} {run : Run}

theorem saysFinished_iff (options : Options) (run : Run) :
    SaysFinished (run.report options) ↔ run.isFinished := by
  have hshows := showsState_report options run
  rw [SaysFinished, hshows.mode.isSet_iff, hshows.runDone, isFinished, Bool.and_eq_true,
    Option.some.injEq, Json.bool.injEq]

/-- **The report of a linked run is coherent**, if the end of the run is known where it is due. -/
theorem Linked.coherent (h : run.Linked) (hsettled : run.isDrained → run.Settled)
    (options : Options) :
    Coherent options (run.report options) run.pending run.processing run.done := by
  obtain ⟨hpending, hprocessing, hdone, -⟩ := showsJobs_report options run
  have hshows := showsState_report options run
  constructor
  · exact hpending
  · exact hprocessing
  · exact hdone
  · simp only [startKeys, List.forall_mem_cons]
    by_cases hmode : run.mode.isSome
    · have hstarted := h.startedAtMs.mpr hmode
      exact Or.inr ⟨hshows.mode.isSet_iff.mpr hmode, hshows.runId.isSet_iff.mpr hmode,
        hshows.startedAtMs.isSet_iff.mpr hstarted, List.forall_mem_nil _⟩
    · have hstarted := h.startedAtMs.not.mpr hmode
      exact Or.inl ⟨hshows.mode.isNull hmode, hshows.runId.isNull hmode,
        hshows.startedAtMs.isNull hstarted, List.forall_mem_nil _⟩
  · simp only [finishKeys, List.forall_mem_cons]
    by_cases hfinished : run.finishedAtMs.isSome
    · have hdrain := h.drainTimeMs.mpr hfinished
      exact Or.inr ⟨⟨hshows.finishedAtMs.isSet_iff.mpr hfinished,
        hshows.drainTimeMs.isSet_iff.mpr hdrain, List.forall_mem_nil _⟩,
        hshows.mode.isSet_iff.mpr (h.finish hfinished)⟩
    · have hdrain := h.drainTimeMs.not.mpr hfinished
      exact Or.inl ⟨hshows.finishedAtMs.isNull hfinished, hshows.drainTimeMs.isNull hdrain,
        List.forall_mem_nil _⟩
  · intro hwork
    exact hshows.mode.isSet_iff.mpr (h.work hwork)
  · exact hshows.runDone
  · intro hfinished
    rw [saysFinished_iff] at hfinished
    obtain ⟨hdrained, hmode⟩ := Bool.and_eq_true_iff.mp hfinished
    refine ⟨hshows.finishedAtMs.isSet_iff.mpr ((hsettled hdrained).finish hmode), ?_, ?_⟩
    · have herrors := hshows.errors
      rwa [errors, if_pos hfinished] at herrors
    · have hretries := hshows.retries
      rwa [retries, if_pos hfinished] at hretries
  · intro hfinished
    rw [saysFinished_iff] at hfinished
    have herrors := hshows.errors
    have hretries := hshows.retries
    rw [errors, if_neg hfinished] at herrors
    rw [retries, if_neg hfinished] at hretries
    exact List.forall_mem_append.mpr ⟨herrors, hretries⟩

end Run

/-! ### Histories -/

variable {options : Options} {history : List Request} {request : Request} {lab : Lab}
  {fields : Json.Fields}

/-- A report was asked for, and this one was given. -/
def GivesReport (options : Options) (lab : Lab) (request : Request) (fields : Json.Fields) : Prop :=
  Route.of request.method request.target = .ok .report ∧
    (lab.answer options request).1 = ⟨200, .json fields⟩

theorem ne_json_of_injected {phase : Phase} {response : Response}
    (h : injected? options phase = some response) : response.body ≠ .json fields := by
  rw [injected?] at h
  split at h
  · obtain rfl := Option.some.inj h
    exact nofun
  · split at h
    · obtain rfl := Option.some.inj h
      exact nofun
    · cases h

/-- Where a report was given, one was carried out, and not only its head. -/
theorem GivesReport.carried (h : GivesReport options lab request fields) :
    request.deed options = .report ∧ request.method ≠ "HEAD" := by
  obtain ⟨hroute, hanswer⟩ := h
  rw [answer_response, Request.response, hroute] at hanswer
  dsimp only at hanswer
  have hmethod : request.method ≠ "HEAD" := by
    intro hhead
    rw [if_pos hhead, Response.empty] at hanswer
    cases congrArg Response.body hanswer
  refine ⟨?_, hmethod⟩
  rw [if_neg hmethod] at hanswer
  rw [Request.deed, hroute]
  dsimp only
  rcases hinjected : Route.report.phase?.bind (injected? options) with _ | response
  · rfl
  · rw [hinjected] at hanswer
    exact absurd (congrArg Response.body hanswer) (ne_json_of_injected hinjected)

theorem reports_of_deed (lab : Lab) (h : request.deed options = .report)
    (hmethod : request.method ≠ "HEAD") :
    GivesReport options lab request ((lab.answer options request).2.run.report options) := by
  refine ⟨?_, answer_report options lab h hmethod⟩
  obtain ⟨route, hroute, -, hdeed⟩ := exists_route_of_deed options (by rw [h]; decide)
  rw [hroute, ← eq_report_of_deed (hdeed.symm.trans h)]

/-- A report shows the run after its step. -/
theorem GivesReport.eq (h : GivesReport options lab request fields) :
    fields = (lab.run.advance options.drainPerReport request.time).report options := by
  obtain ⟨hdeed, hmethod⟩ := h.carried
  have hanswer := answer_report options lab hdeed hmethod
  rw [h.2, answer_run, hdeed] at hanswer
  exact Body.json.inj (Response.mk.inj hanswer).2

/-- **After any requests** the values of the run are linked. -/
theorem linked_after (history : List Request) : (after options history).run.Linked := by
  induction history using List.reverseRecOn with
  | nil => exact Run.linked_reset {}
  | append_singleton history request ih =>
    rw [after_concat, answer_run]
    exact ih.perform _ _ _

/-- Without commands, nothing happens to a settled run. -/
theorem run_of_settled {between : List Request} (h : lab.run.Settled)
    (hbetween : ∀ r ∈ between, ¬ (r.deed options).isCommand) :
    (between.foldl (fun lab r => (lab.answer options r).2) lab).run = lab.run := by
  induction between generalizing lab with
  | nil => rfl
  | cons r between ih =>
    obtain ⟨hr, hrest⟩ := List.forall_mem_cons.mp hbetween
    have hrun : (lab.answer options r).2.run = lab.run := by
      rw [answer_run, h.perform _ _ hr]
    rw [List.foldl_cons, ih (by rwa [hrun]) hrest, hrun]

/-- What is known of the reports of a lab after a history. -/
structure Consistent (options : Options) (history : List Request) : Prop where
  /-- The values that a dispatch sets and those that an end sets are there together. -/
  linked : (after options history).run.Linked
  /-- A report is given wherever one is carried out. -/
  given : ∀ request : Request, request.deed options = .report → request.method ≠ "HEAD" →
    ∃ fields, GivesReport options (after options history) request fields
  /-- The fields of a report fit together. -/
  coherent : ∀ request fields, GivesReport options (after options history) request fields →
    ∃ pending processing done, Coherent options fields pending processing done
  /-- When a report says that the run is done, it is given again and again, until the lab is reset
  or jobs are seeded or dispatched. -/
  steady : ∀ request fields, GivesReport options (after options history) request fields →
    fields.get? "runDone" = some (.bool true) →
      ∀ (between : List Request) (again : Request) (fields' : Json.Fields),
        (∀ r ∈ between, ¬ (r.deed options).isCommand) →
          GivesReport options (after options (history ++ request :: between)) again fields' →
            fields' = fields

/-- **The reports of a lab are consistent**, whatever it has been asked before.  What a dispatch
sets and what the end of a run sets is there as a whole or not at all, the end and any work come
after a dispatch, a report says that the run is done exactly if no job is left, a run that is done
after a dispatch has ended, and only then there are errors and retries; and from a report on that
says the run is done, reports do not change until a reset, a seed or a dispatch is carried out. -/
theorem reports_consistent (options : Options) (history : List Request) :
    Consistent options history := by
  have hlinked : (after options history).run.Linked := linked_after history
  constructor
  · exact hlinked
  · intro request hdeed hmethod
    exact ⟨_, reports_of_deed _ hdeed hmethod⟩
  · intro request fields hreports
    rw [hreports.eq]
    exact ⟨_, _, _, (hlinked.advance _ request.time).coherent hlinked.settled_advance options⟩
  · intro request fields hreports hdone between again fields' hbetween hagain
    have hrun : (after options (history ++ [request])).run =
        (after options history).run.advance options.drainPerReport request.time := by
      rw [after_concat, answer_run, hreports.carried.1]
      rfl
    have hsettled : (after options (history ++ [request])).run.Settled := by
      rw [hrun]
      refine hlinked.settled_advance ?_
      rw [hreports.eq, (Run.showsState_report options _).runDone] at hdone
      exact Json.bool.inj (Option.some.inj hdone)
    have hafter : (after options (history ++ request :: between)).run =
        (after options (history ++ [request])).run := by
      have hsplit : history ++ request :: between = history ++ [request] ++ between := by simp
      rw [hsplit, after, List.foldl_append]
      exact run_of_settled hsettled hbetween
    rw [hagain.eq, hafter, hsettled.advance, hrun, hreports.eq]

end QueueDrain.Lab
