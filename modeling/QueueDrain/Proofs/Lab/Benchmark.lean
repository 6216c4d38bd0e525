import QueueDrain.Plan.Resolve
import QueueDrain.Proofs.Bench.Steps
import QueueDrain.Proofs.Lab.Waits
import QueueDrain.Proofs.Plan.Iterations
import QueueDrain.Url.Standard

/-!
A whole benchmark against a lab.

A reset leaves the jobs of a lab that are pending, so the first iteration of a run waits for those
that it finds beside its own (`tasks`).  An iteration that ends in time leaves none to the next one
(`counts_iterate`), and shows what it was (`shownBy_of_shows`).  By induction on the iterations a
run gets through all of them, or up to the first one that is late (`runFrom_ran`,
`benchmark_ends`).
-/

namespace QueueDrain

/-- The commands of an iteration, in order. -/
def Iteration.commands (iteration : Iteration) : List Command :=
  [.reset, .seed iteration.items, .dispatch iteration.mode]

namespace Lab

variable {plan : Plan} {options : Options} {sends : Command → Prop} {target : Target Lab}
  {s : Session Lab} {p : Progress}

/-! ### Iterations -/

namespace Progress

/-- After the commands of an iteration. -/
def begin (iteration : Iteration) (p : Progress) : Progress :=
  ((p.obey .reset).obey (.seed iteration.items)).obey (.dispatch iteration.mode)

/-- The jobs that an iteration has to wait for. -/
def load (iteration : Iteration) (p : Progress) : Nat := p.run.pending + iteration.items

/-- After a whole iteration. -/
def iterate (plan : Plan) (options : Options) (iteration : Iteration) (p : Progress) : Progress :=
  (p.begin iteration).answered options.drainPerReport plan.pollIntervalMs
    (pauses plan options (p.load iteration))

end Progress

theorem fits_begin {iteration : Iteration} (hload : p.load iteration < UInt64.size)
    (hclock : p.clock < UInt64.size) : (p.begin iteration).run.Fits := by
  have hreset : p.run.reset.Fits :=
    Run.Fits.reset (Nat.lt_of_le_of_lt (Nat.le_add_right _ _) hload)
  exact (hreset.seed hload).start iteration.mode hclock

theorem drain_ends (refusal : Nat → Option String) (h : Served options sends target)
    (hbatch : 0 < options.drainPerReport) {iteration : Iteration}
    (hsends : ∀ c ∈ iteration.commands, sends c)
    (hload : p.load iteration < UInt64.size)
    (hclock : p.clock + waitMs plan options (p.load iteration) < UInt64.size)
    (hs : Reaches s (p.obey .reset)) :
    Ends plan options (p.begin iteration)
        ((Session.bench target refusal).drain plan iteration s).1 ∧
      Reaches ((Session.bench target refusal).drain plan iteration s).2
        (p.iterate plan options iteration) := by
  have hitems : (Command.seed iteration.items).Fits :=
    Nat.lt_of_le_of_lt (Nat.le_add_left _ _) hload
  obtain ⟨s', hseed, hs'⟩ := hs.command refusal h
    (hsends (.seed iteration.items) (by simp [Iteration.commands])) hitems
  obtain ⟨s'', hdispatch, hs''⟩ := hs'.command refusal h
    (hsends (.dispatch iteration.mode) (by simp [Iteration.commands])) trivial
  rw [Bench.drain_apply, hseed]
  dsimp only
  rw [hdispatch]
  dsimp only
  exact ends_wait refusal h hbatch rfl
    (fits_begin hload (Nat.lt_of_le_of_lt (Nat.le_add_right _ _) hclock)) hclock hs''

/-- Work is done in the same way whether or not the heap is sampled meanwhile. -/
theorem sampled_reaches {α : Type} (refusal : Nat → Option String)
    (h : Served options sends target) (plan : Plan) {work : StateM (Session Lab) α} {P : α → Prop}
    {q : Progress} (hwork : ∀ s, Reaches s p → P (work s).1 ∧ Reaches (work s).2 q)
    (hs : Reaches s p) :
    P ((Session.bench target refusal).sampled plan work s).1.1 ∧
      Reaches ((Session.bench target refusal).sampled plan work s).2 q := by
  rw [Bench.sampled]
  by_cases hsample : plan.sampleHeap
  · rw [if_pos hsample]
    obtain ⟨hdone, hreached⟩ := hwork _ (hs.startSampler plan.samplerIntervalMs)
    exact ⟨hdone, hreached.finishSampler h plan.joinGraceMs⟩
  · rw [if_neg hsample]
    exact hwork s hs

/-- How an iteration ends. -/
structure Yields (plan : Plan) (options : Options) (iteration : Iteration) (p : Progress)
    (outcome : Except Error RunResult) : Prop where
  inTime (h : InTime plan options (p.load iteration)) : ∃ result, outcome = .ok result ∧
    result.iteration = iteration ∧
    (p.iterate plan options iteration).run.Shows options result.report
  late (h : ¬ InTime plan options (p.load iteration)) :
    outcome = .error (.pollTimeout (.ofMillis (waitMs plan options (p.load iteration))))

/-- **An iteration at a lab** ends as its wait does. -/
theorem runOnce_yields (refusal : Nat → Option String) (h : Served options sends target)
    (hbatch : 0 < options.drainPerReport) {iteration : Iteration}
    (hsends : ∀ c ∈ iteration.commands, sends c)
    (hload : p.load iteration < UInt64.size)
    (hclock : p.clock + waitMs plan options (p.load iteration) < UInt64.size) (hs : Reaches s p) :
    Yields plan options iteration p
        ((Session.bench target refusal).runOnce plan iteration s).1 ∧
      Reaches ((Session.bench target refusal).runOnce plan iteration s).2
        (p.iterate plan options iteration) := by
  obtain ⟨s', hreset, hs'⟩ :=
    hs.command refusal h (hsends .reset (by simp [Iteration.commands])) trivial
  rw [Bench.runOnce_apply, hreset]
  dsimp only
  have hdrain : ∀ s, Reaches s (p.obey .reset) →
      Ends plan options (p.begin iteration)
          ((Session.bench target refusal).drain plan iteration s).1 ∧
        Reaches ((Session.bench target refusal).drain plan iteration s).2
          (p.iterate plan options iteration) :=
    fun _ hs => drain_ends refusal h hbatch hsends hload hclock hs
  obtain ⟨hends, hreached⟩ := sampled_reaches refusal h plan hdrain hs'
  rcases hwork : (Session.bench target refusal).sampled plan
    ((Session.bench target refusal).drain plan iteration) s' with ⟨⟨outcome, memory⟩, s''⟩
  rw [hwork] at hends hreached
  refine ⟨⟨fun hinTime => ?_, fun hlate => ?_⟩, hreached⟩
  · obtain ⟨report, hok, hshows⟩ := hends.inTime hinTime
    obtain rfl : outcome = .ok report := hok
    exact ⟨_, rfl, rfl, hshows⟩
  · obtain rfl : outcome = _ := hends.late hlate
    rfl

/-! ### Runs -/

/-- An iteration, and the jobs that it has to wait for. -/
structure Task where
  iteration : Iteration
  load : Nat

/-- The iterations with the jobs that they wait for, when some jobs are pending before the first. -/
def tasks (pending : Nat) : List Iteration → List Task
  | [] => []
  | iteration :: iterations =>
    ⟨iteration, pending + iteration.items⟩ :: tasks 0 iterations

/-- The calls of an iteration that ends in time. -/
def Task.calls (options : Options) (task : Task) : List Call :=
  task.iteration.commands.map .command ++
    List.replicate (task.load ⌈/⌉ options.drainPerReport + 1) .report

/-- The time that is spent on tasks, up to the first one that does not end in time. -/
def spanMs (plan : Plan) (options : Options) : List Task → Nat
  | [] => 0
  | task :: tasks =>
    waitMs plan options task.load +
      if InTime plan options task.load then spanMs plan options tasks else 0

/-- What the result of a task shows whose run has a number. -/
structure Task.ShownBy (number : Nat) (task : Task) (result : RunResult) : Prop where
  iteration : result.iteration = task.iteration
  pending : result.report.get? "pending" = some (.ofNat 0)
  processing : result.report.get? "processing" = some (.ofNat 0)
  totalProcessed : result.report.get? "totalProcessed" = some (.ofNat task.load)
  items : result.report.get? "items" = some (.ofNat task.load)
  mode : result.report.get? "mode" = some (.string task.iteration.mode.name)
  runId : result.report.get? "runId" = some (.string ("run-" ++ toString number))

/-- Results of tasks, whose numbers go on from a number. -/
inductive Reports : Nat → List Task → List RunResult → Prop where
  | nil (number : Nat) : Reports number [] []
  | cons {number : Nat} {task : Task} {result : RunResult} {tasks : List Task}
    {results : List RunResult} (shown : task.ShownBy (number + 1) result)
    (more : Reports (number + 1) tasks results) : Reports number (task :: tasks) (result :: results)

/-- How tasks end that begin at some progress, and what has been reached then. -/
inductive Ran (plan : Plan) (options : Options) (p : Progress) (tasks : List Task) :
    Except Error (List RunResult) → Progress → Prop where
  | finished {results : List RunResult} {q : Progress}
    (inTime : ∀ task ∈ tasks, InTime plan options task.load)
    (reports : Reports p.run.id tasks results)
    (recorded : q.recorded = results.reverse ++ p.recorded)
    (calls : q.calls = p.calls ++ tasks.flatMap (·.calls options)) :
    Ran plan options p tasks (.ok results) q
  | late {done rest : List Task} {task : Task} {results : List RunResult} {q : Progress}
    (split : tasks = done ++ task :: rest)
    (inTime : ∀ task ∈ done, InTime plan options task.load)
    (late : ¬ InTime plan options task.load)
    (reports : Reports p.run.id done results)
    (recorded : q.recorded = results.reverse ++ p.recorded) :
    Ran plan options p tasks
      (.error (.pollTimeout (.ofMillis
        ((plan.timeoutMs / plan.pollIntervalMs + 1) * plan.pollIntervalMs)))) q

theorem pauses_of_inTime {load : Nat} (hinTime : InTime plan options load) :
    pauses plan options load = load ⌈/⌉ options.drainPerReport :=
  Nat.min_eq_left ((inTime_iff plan.pollIntervalMs_pos load).mp hinTime)

theorem waitMs_of_not_inTime {load : Nat} (hlate : ¬ InTime plan options load) :
    waitMs plan options load =
      (plan.timeoutMs / plan.pollIntervalMs + 1) * plan.pollIntervalMs := by
  rw [inTime_iff plan.pollIntervalMs_pos] at hlate
  rw [waitMs, pauses, Nat.min_eq_right (Nat.le_of_not_le hlate)]

/-- The run after an iteration, as its number of steps makes it. -/
theorem after_iterate (plan : Plan) (options : Options) (iteration : Iteration) (p : Progress) :
    Run.After options.drainPerReport (pauses plan options (p.load iteration))
      (p.begin iteration).run (p.iterate plan options iteration).run :=
  Progress.after_answered _ _ rfl _

theorem id_iterate (plan : Plan) (options : Options) (iteration : Iteration) (p : Progress) :
    (p.iterate plan options iteration).run.id = p.run.id + 1 :=
  (after_iterate plan options iteration p).id

theorem fits_iterate {iteration : Iteration} (hload : p.load iteration < UInt64.size)
    (hclock : p.clock + waitMs plan options (p.load iteration) < UInt64.size) :
    (p.iterate plan options iteration).run.Fits :=
  Progress.fits_answered options.drainPerReport
    (fits_begin hload (Nat.lt_of_le_of_lt (Nat.le_add_right _ _) hclock)) hclock

/-- An iteration that ends in time leaves nothing behind. -/
theorem counts_iterate (hbatch : 0 < options.drainPerReport) {iteration : Iteration}
    (hinTime : InTime plan options (p.load iteration)) :
    (p.iterate plan options iteration).run.pending = 0 ∧
      (p.iterate plan options iteration).run.processing = 0 ∧
      (p.iterate plan options iteration).run.done = p.load iteration := by
  have hafter := after_iterate plan options iteration p
  rw [pauses_of_inTime hinTime] at hafter
  -- the pauses are as many as the batches, so all of the jobs are taken up
  have henough : p.load iteration ≤
      p.load iteration ⌈/⌉ options.drainPerReport * options.drainPerReport :=
    Nat.le_of_not_lt fun hlt => Nat.lt_irrefl _ ((lt_batches_iff hbatch _ _).mpr hlt)
  obtain ⟨hpending, hprocessing⟩ := (Run.isDrained_iff _).mp (hafter.isDrained_iff.mpr henough)
  refine ⟨hpending, hprocessing, hafter.done.trans ?_⟩
  rw [show (p.begin iteration).run.pending = p.load iteration from rfl, Nat.min_eq_left henough]
  exact Nat.zero_add _

theorem calls_iterate {iteration : Iteration}
    (hinTime : InTime plan options (p.load iteration)) :
    (p.iterate plan options iteration).calls =
      p.calls ++ (Task.mk iteration (p.load iteration)).calls options := by
  rw [Progress.iterate, pauses_of_inTime hinTime]
  simp [Progress.answered, Progress.polled, Progress.begin, Progress.obey, Task.calls,
    Iteration.commands]

/-- **The report of an iteration that ends in time** shows its jobs, its mode and its number. -/
theorem shownBy_of_shows (hbatch : 0 < options.drainPerReport) {result : RunResult}
    (hinTime : InTime plan options (p.load result.iteration))
    (hfits : (p.iterate plan options result.iteration).run.Fits)
    (hshows : (p.iterate plan options result.iteration).run.Shows options result.report) :
    (Task.mk result.iteration (p.load result.iteration)).ShownBy (p.run.id + 1) result := by
  have hafter := after_iterate plan options result.iteration p
  obtain ⟨hpending, hprocessing, hdone⟩ := counts_iterate hbatch hinTime
  obtain ⟨hitems, hmode, hrunId⟩ := hshows.get?_dispatch hfits hafter.mode
  have hid := id_iterate plan options result.iteration p
  have hload : (p.iterate plan options result.iteration).run.items = p.load result.iteration :=
    hafter.items
  exact
    { iteration := rfl
      pending := hpending ▸ hshows.get?_pending hfits
      processing := hprocessing ▸ hshows.get?_processing hfits
      totalProcessed := hdone ▸ hshows.get?_totalProcessed hfits
      items := hload ▸ hitems
      mode := hmode
      runId := hid ▸ hrunId }

/-- An iteration that ends in time goes before the others. -/
theorem Ran.cons {iteration : Iteration} {iterations : List Iteration} {result : RunResult}
    {outcome : Except Error (List RunResult)} {q : Progress}
    (hinTime : InTime plan options (p.load iteration))
    (hshown : (Task.mk iteration (p.load iteration)).ShownBy (p.run.id + 1) result)
    (h : Ran plan options ((p.iterate plan options iteration).keep result) (tasks 0 iterations)
      outcome q) :
    Ran plan options p (tasks p.run.pending (iteration :: iterations))
      (outcome.map (result :: ·)) q := by
  have hid : ((p.iterate plan options iteration).keep result).run.id = p.run.id + 1 :=
    id_iterate plan options iteration p
  have hrecorded : ((p.iterate plan options iteration).keep result).recorded =
      result :: p.recorded := rfl
  cases h with
  | @finished results _ inTime reports recorded calls =>
    rw [hid] at reports
    refine .finished (List.forall_mem_cons.mpr ⟨hinTime, inTime⟩) (.cons hshown reports) ?_ ?_
    · rw [recorded, hrecorded, List.reverse_cons, List.append_assoc, List.singleton_append]
    · have hcalls : ((p.iterate plan options iteration).keep result).calls =
          p.calls ++ (Task.mk iteration (p.load iteration)).calls options :=
        calls_iterate hinTime
      rw [calls, hcalls, List.append_assoc]
      rfl
  | @late done rest task results _ split inTime late reports recorded =>
    rw [hid] at reports
    have hsplit : tasks p.run.pending (iteration :: iterations) =
        (⟨iteration, p.load iteration⟩ :: done) ++ task :: rest := by
      rw [tasks, split]
      rfl
    refine .late hsplit (List.forall_mem_cons.mpr ⟨hinTime, inTime⟩) late (.cons hshown reports) ?_
    rw [recorded, hrecorded, List.reverse_cons, List.append_assoc, List.singleton_append]

/-- **A run at a lab**, from any of its iterations on. -/
theorem runFrom_ran (h : Served options sends target) (hbatch : 0 < options.drainPerReport)
    (iterations : List Iteration) :
    ∀ {k : Nat} {s : Session Lab} {p : Progress}, plan.iterations.drop k = iterations →
      (∀ iteration ∈ iterations, ∀ c ∈ iteration.commands, sends c) →
      (∀ task ∈ tasks p.run.pending iterations, task.load < UInt64.size) →
      p.clock + spanMs plan options (tasks p.run.pending iterations) < UInt64.size →
      Reaches s p →
      ∃ q, Ran plan options p (tasks p.run.pending iterations)
          ((Session.bench target fun _ => none).runFrom plan iterations.length k s).1 q ∧
        Reaches ((Session.bench target fun _ => none).runFrom plan iterations.length k s).2 q ∧
        q.clock = p.clock + spanMs plan options (tasks p.run.pending iterations) := by
  induction iterations with
  | nil =>
    intro k s p _ _ _ _ hs
    exact ⟨p, .finished (fun _ hmem => absurd hmem List.not_mem_nil) (.nil _) rfl
      (List.append_nil _).symm, hs, rfl⟩
  | cons iteration iterations ih =>
    intro k s p hdrop hsends hloads hclock hs
    obtain ⟨hfirst, hrest⟩ := List.forall_mem_cons.mp hsends
    obtain ⟨hload, hothers⟩ := List.forall_mem_cons.mp hloads
    obtain ⟨hposition, hnext⟩ := plan.iterationAt?_of_drop hdrop
    have hspan : spanMs plan options (tasks p.run.pending (iteration :: iterations)) =
        waitMs plan options (p.load iteration) +
          if InTime plan options (p.load iteration) then spanMs plan options (tasks 0 iterations)
          else 0 := rfl
    rw [hspan] at hclock ⊢
    have hwait : p.clock + waitMs plan options (p.load iteration) < UInt64.size := by omega
    -- the iteration at this position, from what has been reached so far
    obtain ⟨hyields, hreached⟩ :=
      runOnce_yields (fun _ => none) h hbatch hfirst hload hwait hs
    rw [List.length_cons, Bench.runFrom_succ_apply _ plan iterations.length k hposition]
    rcases hrun : (Session.bench target fun _ => none).runOnce plan iteration s
      with ⟨outcome, s'⟩
    rw [hrun] at hyields hreached
    rw [show (Session.bench target fun _ => none).runOnce plan iteration
      ((Session.bench target fun _ => none).announce k iteration s).2 = (outcome, s') from hrun]
    by_cases hinTime : InTime plan options (p.load iteration)
    · obtain ⟨result, rfl, rfl, hshows⟩ := hyields.inTime hinTime
      dsimp only
      rw [Session.record_of_room rfl]
      dsimp only
      -- the others begin where nothing is left
      have hpending : ((p.iterate plan options result.iteration).keep result).run.pending = 0 :=
        (counts_iterate hbatch hinTime).1
      rw [if_pos hinTime, ← Nat.add_assoc] at hclock ⊢
      obtain ⟨q, hran, hq, hend⟩ := ih hnext hrest (by rw [hpending]; exact hothers)
        (by rw [hpending]; exact hclock) (hreached.keep result)
      rw [hpending] at hran hend
      have hshown := shownBy_of_shows hbatch hinTime (fits_iterate hload hwait) hshows
      exact ⟨q, hran.cons hinTime hshown, hq, hend⟩
    -- too late: the run ends here, and none of the others begins
    · obtain rfl := hyields.late hinTime
      dsimp only
      rw [if_neg hinTime, Nat.add_zero]
      refine ⟨p.iterate plan options iteration, ?_, hreached, rfl⟩
      rw [waitMs_of_not_inTime hinTime]
      exact .late (List.nil_append _).symm (fun _ hmem => absurd hmem List.not_mem_nil) hinTime
        (.nil _) rfl

/-- A run of a plan against a lab at its base address, from some time on. -/
def benchmark (urls : Url.Readers) (plan : Plan) (options : Options) (lab : Lab) (clock : Nat) :
    Except Error (List RunResult) × Session Lab :=
  (Session.bench
    ((Client.ofPlan urls plan).target (network options (Client.ofPlan urls plan).baseUrl))
    fun _ => none).runMatrix plan { clock, target := lab }

/-- **A benchmark against a lab** that injects nothing ends well exactly if each of its iterations
has time enough for all the batches of its jobs; the first one also has to wait for the jobs that
were pending before.  Then every result shows its jobs, its mode and its number, and every iteration
has asked for one report more than there are batches.  Otherwise the first iteration without time
enough is given up after the first pause that is over too late, and the results before it are kept.
-/
theorem benchmark_ends (urls : Url.Readers) (plan : Plan) {options : Options}
    (hquiet : options.IsQuiet) (hbatch : 0 < options.drainPerReport) (hoptions : options.Fits)
    (lab : Lab) (clock : Nat)
    (hreport : urls.isTarget (Client.ofPlan urls plan).reportRequest.url)
    (hcommands : ∀ iteration ∈ plan.iterations, ∀ c ∈ iteration.commands,
      urls.isTarget ((Client.ofPlan urls plan).commandRequest c).url)
    (hloads : ∀ task ∈ tasks lab.run.pending plan.iterations, task.load < UInt64.size)
    (hclock : clock + spanMs plan options (tasks lab.run.pending plan.iterations) < UInt64.size) :
    ((∃ results, (benchmark urls plan options lab clock).1 = .ok results) ↔
        ∀ task ∈ tasks lab.run.pending plan.iterations, InTime plan options task.load) ∧
      (∀ results, (benchmark urls plan options lab clock).1 = .ok results →
        Reports lab.run.id (tasks lab.run.pending plan.iterations) results ∧
        (benchmark urls plan options lab clock).2.recorded = results.reverse ∧
        (benchmark urls plan options lab clock).2.calls.map (·.2) =
          (tasks lab.run.pending plan.iterations).flatMap (·.calls options)) ∧
      (∀ e, (benchmark urls plan options lab clock).1 = .error e →
        e = .pollTimeout (.ofMillis
          ((plan.timeoutMs / plan.pollIntervalMs + 1) * plan.pollIntervalMs)) ∧
        ∃ done task rest, tasks lab.run.pending plan.iterations = done ++ task :: rest ∧
          (∀ task ∈ done, InTime plan options task.load) ∧ ¬ InTime plan options task.load ∧
          Reports lab.run.id done (benchmark urls plan options lab clock).2.recorded.reverse) ∧
      (benchmark urls plan options lab clock).2.clock =
        clock + spanMs plan options (tasks lab.run.pending plan.iterations) := by
  have htarget :
      (Client.ofPlan urls plan).urls.isTarget (Client.ofPlan urls plan).reportRequest.url := hreport
  have hserved := served_client hquiet hoptions htarget
  have hstart : Reaches { clock, target := lab } ⟨clock, lab.run, [], []⟩ :=
    ⟨rfl, rfl, rfl, rfl, fun _ hmem => absurd hmem List.not_mem_nil⟩
  obtain ⟨q, hran, hq, hend⟩ := runFrom_ran hserved hbatch plan.iterations List.drop_zero hcommands
    hloads hclock hstart
  rw [Plan.length_iterations] at hran hq
  obtain ⟨hran, hq⟩ : Ran plan options ⟨clock, lab.run, [], []⟩
        (tasks lab.run.pending plan.iterations) (benchmark urls plan options lab clock).1 q ∧
      Reaches (benchmark urls plan options lab clock).2 q := ⟨hran, hq⟩
  -- from here on the run is only known by how it ended
  generalize benchmark urls plan options lab clock = run at hran hq ⊢
  obtain ⟨outcome, s⟩ := run
  dsimp only at hran hq ⊢
  have hlast := hq.clock.trans hend
  cases hran with
  | @finished results _ inTime reports recorded calls =>
    refine ⟨⟨fun _ => inTime, fun _ => ⟨results, rfl⟩⟩, ?_, ?_, hlast⟩
    · rintro _ ⟨⟩
      rw [hq.recorded, recorded, hq.calls, calls]
      exact ⟨reports, List.append_nil _, List.nil_append _⟩
    · rintro e ⟨⟩
  | @late done rest task results _ split inTime late reports recorded =>
    refine ⟨⟨?_, fun hall => ?_⟩, ?_, ?_, hlast⟩
    · rintro ⟨results, ⟨⟩⟩
    · exact absurd (hall task (split ▸ List.mem_append_right _ List.mem_cons_self)) late
    · rintro results ⟨⟩
    · rintro e ⟨⟩
      refine ⟨rfl, done, task, rest, split, inTime, late, ?_⟩
      rw [hq.recorded, recorded, List.append_nil, List.reverse_reverse]
      exact reports

/-- Two sizes, with time for two batches. -/
def hurriedInputs : Inputs :=
  { itemsList := some "3,8", modes := some "sync", runs := 1, pollIntervalMs := 100
    timeoutMs := 150, sampleHeap := some true }

def hurriedPlan : Plan :=
  { Plan.single with
    items := [3, 8], pollIntervalMs := 100, timeoutMs := 150, sampleHeap := true
    pollIntervalMs_pos := by decide }

/-- A lab amid a run, with one job pending. -/
def busyLab : Lab where
  run :=
    { id := 7, mode := some .sync, items := 14, pending := 1, processing := 4, done := 9
      startedAt := some 0, startedAtMs := some 0 }

theorem resolve_hurriedInputs :
    Plan.resolve Url.standard .flow hurriedInputs = .ok hurriedPlan := by
  have haddress : Url.standard.isWeb (Plan.trimBaseUrl hurriedInputs.baseUrl) := by
    decide +kernel
  have hbase : Plan.resolveBaseUrl Url.standard hurriedInputs.baseUrl =
      .ok hurriedPlan.baseUrl := by
    simp only [Plan.resolveBaseUrl, haddress, if_true]
    rfl
  rw [Plan.resolve, hbase]
  rfl

/-- The four jobs of the first iteration take two batches of two, the eight of the second take
four, for which there is no time. -/
theorem benchmark_ends_hurriedPlan :
    Plan.resolve Url.standard .flow hurriedInputs = .ok hurriedPlan ∧
      (benchmark Url.standard hurriedPlan { drainPerReport := 2 } busyLab 0).1 =
        .error (.pollTimeout (.ofMillis 200)) := by
  have hquiet : Options.IsQuiet { drainPerReport := 2 } := ⟨rfl, rfl⟩
  obtain ⟨hok, -, herror, -⟩ := benchmark_ends Url.standard hurriedPlan hquiet (by decide)
    ⟨by decide, by decide⟩ busyLab 0 (by decide +kernel) (by decide +kernel) (by decide +kernel)
    (by decide +kernel)
  refine ⟨resolve_hurriedInputs, ?_⟩
  rcases hrun : (benchmark Url.standard hurriedPlan { drainPerReport := 2 } busyLab 0).1
    with e | results
  · rw [(herror e hrun).1]
    rfl
  · exact absurd (hok.mp ⟨results, hrun⟩) (by decide +kernel)

end Lab

end QueueDrain
