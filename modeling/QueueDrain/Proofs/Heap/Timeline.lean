import QueueDrain.Proofs.Heap.Requests

/-!
The timeline of a sampler: when it asks for what, and which values it keeps.

A sampler is watched with a recorder as its source (`Timetable.watch`), which shows all requests so
far at any moment.  They are the first requests of its timetable, whatever its owner does with it
(`Timeline`): a request is made just when its time has come as long as nobody stops the sampler and
no fault ends it, and a sampler that was stopped and waited for has all the values of whole ticks.

* `Moment.after_map`: to the owner, a sampler with a recorder is one with the source of the
  timetable;
* `watched_watch`: until the first wait its requests and samples are those of the timetable;
* `Recorded.lt_length_iff`: which requests have been made by some time;
* `Watched.kept`: what the first wait keeps;
* `timeline`: all of it, for every sequence of actions.
-/

namespace QueueDrain.Heap

namespace Sampler.Moment

variable {σ τ : Type} {f : τ → σ} {fine : Source τ} {coarse : Source σ}

/-- A moment, with less of the state of its source. -/
def map (f : τ → σ) (moment : Moment τ) : Moment σ where
  time := moment.time
  sampler := moment.sampler
  state := f moment.state

theorem act_map (h : SourceRefines f fine coarse) (moment : Moment τ) (action : Action) :
    (moment.map f).act coarse action = (moment.act fine action).map f := by
  obtain ⟨time, sampler, state⟩ := moment
  cases action with
  | sleep ms =>
    simp only [act, see, map, Sampler.act, Sampler.advance_map h]
    rfl
  | stop => rfl
  | join grace =>
    simp only [act, see, map, Sampler.act, Sampler.join_map h]
    rfl
  | stats => rfl

/-- **A moment with less of the state goes through the same actions.** -/
theorem after_map (h : SourceRefines f fine coarse) (moment : Moment τ) (actions : List Action) :
    (moment.map f).after coarse actions = (moment.after fine actions).map f := by
  induction actions generalizing moment with
  | nil => rfl
  | cons action actions ih => rw [after_cons, after_cons, act_map h, ih]

theorem join_map (h : SourceRefines f fine coarse) (moment : Moment τ) (grace : Nat) :
    (moment.map f).join coarse grace = moment.join fine grace := by
  rw [join, map, Sampler.join_map h]
  rfl

end Sampler.Moment

open Sampler

/-- A first wait that says so has kept the samples of a loop that has ended. -/
theorem Sampler.outcome_of_joined {σ : Type} {source : Source σ} {sampler : Sampler}
    {time grace : Nat} {state state' : σ} {loop : Loop} (hfirst : sampler.outcome = none)
    (hadvance : sampler.loop.advance source (time + grace) state = (loop, state'))
    (hjoined : (sampler.join source time grace state).1.joined = true) :
    (∃ ended, loop.activity = .finished ended) ∧
      (sampler.join source time grace state).1.sampler.outcome = some (some loop.series) := by
  rw [join, hfirst, hadvance] at hjoined ⊢
  dsimp only at hjoined ⊢
  cases hactivity : loop.activity with
  | finished ended => exact ⟨⟨ended, rfl⟩, rfl⟩
  | ready | fetching | pausing | crashed | aborted =>
    rw [hactivity] at hjoined
    cases hjoined

/-- Actions up to the first wait, if there is one. -/
theorem Sampler.exists_first_join (actions : List Action) :
    (∀ grace, .join grace ∉ actions) ∨
      ∃ before grace later, (∀ grace, .join grace ∉ before) ∧
        actions = before ++ .join grace :: later := by
  induction actions with
  | nil => exact Or.inl fun _ => List.not_mem_nil
  | cons action actions ih =>
    by_cases hjoin : ∃ grace, action = .join grace
    · obtain ⟨grace, rfl⟩ := hjoin
      exact Or.inr ⟨[], grace, actions, fun _ => List.not_mem_nil, rfl⟩
    · have hother : ∀ grace, Action.join grace ≠ action := fun grace h => hjoin ⟨grace, h.symm⟩
      obtain hfree | ⟨before, grace, later, hbefore, rfl⟩ := ih
      · exact Or.inl fun grace => List.not_mem_cons_of_ne_of_not_mem (hother grace) (hfree grace)
      · refine Or.inr ⟨action :: before, grace, later, fun grace => ?_, rfl⟩
        exact List.not_mem_cons_of_ne_of_not_mem (hother grace) (hbefore grace)

/-- A sampler that nobody stops has no time at which it was stopped. -/
theorem Sampler.stopTime?_eq_none {actions : List Action} (h : .stop ∉ actions) (time : Nat) :
    stopTime? time actions = none := by
  induction actions generalizing time with
  | nil => rfl
  | cons action actions ih =>
    obtain ⟨hne, hrest⟩ := List.ne_and_not_mem_of_not_mem_cons h
    cases action with
    | stop => exact absurd rfl hne
    | sleep ms => exact ih hrest (time + ms)
    | join grace => exact ih hrest time
    | stats => exact ih hrest time

namespace Timetable

variable {table : Timetable}

/-- The moment at which a sampler is started, before all requests. -/
def unasked (table : Timetable) : Moment (List Request) where
  time := table.start
  sampler := .start table.interval table.start
  state := []

/-- The moment after some actions on a new sampler, with all its requests so far. -/
def watch (table : Timetable) (actions : List Action) : Moment (List Request) :=
  table.unasked.after table.recorder actions

/-- The samples of whole ticks, one list for each metric. -/
def seriesOf (table : Timetable) (ticks : Nat) : Series where
  used := table.values .used ticks
  max := table.values .max ticks
  committed := table.values .committed ticks

theorem map_watch (table : Timetable) (actions : List Action) :
    (table.watch actions).map countsOf = table.reach actions :=
  (Moment.after_map table.recorder_refines _ actions).symm

theorem watch_concat (table : Timetable) (actions : List Action) (action : Action) :
    table.watch (actions ++ [action]) = (table.watch actions).act table.recorder action :=
  Moment.after_append actions [action]

/-! ### Counts of requests -/

/-- After whole ticks each metric has been asked for equally often. -/
theorem countsOf_requests_tick (hinterval : 0 < table.interval) (n : Nat) :
    countsOf (table.requests (3 * n)) = ⟨n, n, n⟩ := by
  induction n with
  | zero => rfl
  | succ n ih =>
    have hused := request_eq hinterval n .used
    have hmax := request_eq hinterval n .max
    have hcommitted := request_eq hinterval n .committed
    simp only [Metric.place, Nat.add_zero] at hused hmax hcommitted
    rw [Nat.mul_succ, requests_succ, requests_succ, requests_succ, countsOf_concat, countsOf_concat,
      countsOf_concat, ih, hused, hmax, hcommitted]
    rfl

/-- Counts of requests that are made in turn. -/
structure InTurn (counts : Counts) : Prop where
  max_le : counts.max ≤ counts.used
  committed_le : counts.committed ≤ counts.max
  used_le : counts.used ≤ counts.committed + 1

/-- **The requests are made in turn**, also within a tick. -/
theorem inTurn_requests (hinterval : 0 < table.interval) (count : Nat) :
    InTurn (countsOf (table.requests count)) := by
  have hsplit : count = 3 * (count / 3) + count % 3 := (Nat.div_add_mod count 3).symm
  have hplace : count % 3 < 3 := Nat.mod_lt count (by omega)
  have htick := countsOf_requests_tick hinterval (count / 3)
  have hused := request_eq hinterval (count / 3) .used
  have hmax := request_eq hinterval (count / 3) .max
  simp only [Metric.place, Nat.add_zero] at hused hmax
  generalize count / 3 = n at *
  generalize count % 3 = place at *
  obtain rfl | rfl | rfl : place = 0 ∨ place = 1 ∨ place = 2 := by omega
  · rw [hsplit, Nat.add_zero, htick]
    exact ⟨Nat.le_refl _, Nat.le_refl _, Nat.le_succ _⟩
  · rw [hsplit, requests_succ, countsOf_concat, htick, hused]
    exact ⟨Nat.le_succ _, Nat.le_refl _, Nat.le_refl _⟩
  · rw [hsplit, requests_succ, requests_succ, countsOf_concat, countsOf_concat, htick, hused, hmax]
    exact ⟨Nat.le_refl _, Nat.le_succ _, Nat.le_refl _⟩

theorem eq_requests {log : List Request} {count : Nat} (h : log <+: table.requests count) :
    log = table.requests log.length := by
  have hlength : log.length ≤ count := by
    have hle := h.length_le
    rwa [length_requests] at hle
  have htake := List.prefix_iff_eq_take.mp h
  rw [requests, ← List.map_take, List.take_range, Nat.min_eq_left hlength] at htake
  exact htake

/-! ### Until the first wait -/

/-- A sampler that nobody has waited for, with the requests and samples of its timetable. -/
structure Watched (table : Timetable) (stop? : Option Nat) (moment : Moment (List Request)) :
    Prop where
  unjoined : table.Unjoined stop? (moment.map countsOf)
  records : table.Records moment.state
  gathers : table.Gathers moment.sampler.loop moment.state

theorem Watched.recorded {stop? : Option Nat} {moment : Moment (List Request)}
    (h : table.Watched stop? moment) :
    table.Recorded stop? moment.time moment.sampler.loop moment.state :=
  ⟨h.unjoined.follows, h.records, h.gathers⟩

/-- **Until the first wait the requests and samples of a sampler are those of its timetable.** -/
theorem watched_watch (hinterval : 0 < table.interval) {actions : List Action}
    (hfree : ∀ grace, .join grace ∉ actions) :
    table.Watched (stopTime? table.start actions) (table.watch actions) := by
  have hunjoined : ∀ {actions}, (∀ grace, .join grace ∉ actions) →
      table.Unjoined (stopTime? table.start actions) ((table.watch actions).map countsOf) := by
    intro actions hfree
    rw [map_watch]
    exact (unjoined_begin table).after hfree
  induction actions using List.reverseRecOn with
  | nil => exact ⟨hunjoined hfree, rfl, fun metric => by cases metric <;> rfl⟩
  | append_singleton actions action ih =>
    have hbefore := ih fun grace hmem => hfree grace (List.mem_append_left [action] hmem)
    have hslept := fun ms => hbefore.recorded.advance hinterval (Nat.le_add_right _ ms)
    refine ⟨hunjoined hfree, ?_, ?_⟩
    · rw [watch_concat]
      cases action with
      | sleep ms => exact (hslept ms).records
      | stop => exact hbefore.records
      | join grace => exact absurd (List.mem_append_right _ List.mem_cons_self) (hfree grace)
      | stats => exact hbefore.records
    · rw [watch_concat]
      cases action with
      | sleep ms => exact (hslept ms).gathers
      | stop => exact hbefore.gathers.stop _
      | join grace => exact absurd (List.mem_append_right _ List.mem_cons_self) (hfree grace)
      | stats => exact hbefore.gathers

/-- The requests between two of which a time falls are those that have been made by then. -/
theorem lt_succ_iff_time_le {k now : Nat} (hmade : (table.request k).time ≤ now)
    (hnext : now < (table.request (k + 1)).time) (j : Nat) :
    j < k + 1 ↔ (table.request j).time ≤ now := by
  constructor
  · intro hlt
    exact Nat.le_trans (table.time_monotone (Nat.le_of_lt_succ hlt)) hmade
  · intro hle
    refine Nat.lt_of_not_le fun hge => ?_
    have hlate : (table.request (k + 1)).time ≤ (table.request j).time := table.time_monotone hge
    omega

/-- **A request has been made by some time just when its time has come**, if the loop runs on its
timetable, nobody has asked it to stop, and no answer until then is a fault. -/
theorem Recorded.lt_length_iff (hinterval : 0 < table.interval) {loop : Loop}
    {log : List Request} {now : Nat} (h : table.Recorded none now loop log)
    (hlate : ∀ due, loop.due? = some due → now < due)
    (hsound : ∀ k, table.answeredTo k ≤ now → (table.answerTo k).sample ≠ .crash) (k : Nat) :
    k < log.length ↔ (table.request k).time ≤ now := by
  obtain ⟨interval, activity, stopping, series⟩ := loop
  obtain ⟨-, -, hplace⟩ := h.follows
  generalize hcounts : countsOf log = counts at hplace
  cases hplace with
  | ready started _ => exact absurd started (Nat.not_le_of_lt (hlate table.start rfl))
  | fetching n metric asked _ _ =>
    have hanswer : now < table.answeredTo (3 * n + metric.place) := by
      rw [answeredTo_eq hinterval]
      exact hlate _ rfl
    rw [length_of_during hcounts]
    refine lt_succ_iff_time_le ?_ (Nat.lt_of_lt_of_le hanswer (table.answeredTo_le_time _)) k
    rw [request_eq hinterval]
    exact asked
  | pausing n ended _ _ =>
    have hnext : now < (table.request (3 * (n + 1) + Metric.used.place)).time := by
      rw [request_eq hinterval]
      exact hlate _ rfl
    have hmade : (table.request (3 * n + Metric.committed.place)).time ≤ now := by
      rw [request_eq hinterval]
      exact Nat.le_trans (table.askedAt_le_answeredAt n .committed) ended
    rw [length_of_during hcounts]
    exact lt_succ_iff_time_le hmade hnext k
  | finished p n _ _ stopped _ => cases stopped
  | crashed n metric answered crash _ =>
    refine absurd ?_ (hsound (3 * n + metric.place) ?_)
    · rw [answerTo_eq hinterval]
      exact crash.crash
    · rw [answeredTo_eq hinterval]
      exact answered

/-! ### The first wait -/

theorem Holds.eq_seriesOf {series : Series} {log : List Request} (h : table.Holds series log)
    {ticks : Nat} (hcounts : countsOf log = ⟨ticks, ticks, ticks⟩) :
    series = table.seriesOf ticks := by
  have hmetric : ∀ metric, series.get metric = table.values metric ticks := by
    intro metric
    rw [h metric, ← get_countsOf, hcounts]
    cases metric <;> rfl
  obtain ⟨used, max, committed⟩ := series
  exact congr (congr (congrArg Series.mk (hmetric .used)) (hmetric .max)) (hmetric .committed)

/-- A sampler whose samples were kept, after its n-th tick. -/
structure Kept (table : Timetable) (n : Nat) (moment : Moment (List Request)) : Prop where
  /-- All metrics were asked for equally often, and at least once. -/
  counts : countsOf moment.state = ⟨n + 1, n + 1, n + 1⟩
  /-- The samples are the values of the answers, metric by metric. -/
  outcome : moment.sampler.outcome = some (some (table.seriesOf (n + 1)))
  stats : moment.sampler.stats = (table.seriesOf (n + 1)).summarize

/-- **What the first wait keeps**: whole ticks up to the one in which the loop was stopped. -/
theorem Watched.kept (hinterval : 0 < table.interval) {stop? : Option Nat}
    {moment : Moment (List Request)} (h : table.Watched stop? moment) {grace : Nat}
    (hjoined : (moment.join table.recorder grace).joined = true) :
    ∃ n, table.EndsWith stop? n ∧ ∀ later,
      table.Kept n ((moment.act table.recorder (.join grace)).after table.recorder later) := by
  have hfirst : moment.sampler.outcome = none := h.unjoined.outcome
  have hrecorded := h.recorded.advance hinterval (Nat.le_add_right moment.time grace)
  have hstate := join_state table.recorder hfirst moment.time grace moment.state
  rcases hadvance : moment.sampler.loop.advance table.recorder (moment.time + grace) moment.state
    with ⟨⟨interval, activity, stopping, series⟩, log⟩
  rw [hadvance] at hrecorded hstate
  obtain ⟨⟨ended, hfinished⟩, houtcome⟩ := outcome_of_joined hfirst hadvance hjoined
  obtain rfl : activity = .finished ended := hfinished
  obtain ⟨⟨-, -, hplace⟩, -, hgathers⟩ := hrecorded
  have hseries : table.Holds series log := hgathers.holds fun _ => rfl
  generalize hcounts : countsOf log = counts at hplace
  cases hplace with
  | finished p n _ sound stopped last =>
    obtain rfl : series = table.seriesOf (n + 1) := hseries.eq_seriesOf hcounts
    have hdone : (moment.act table.recorder (.join grace)).Done (table.seriesOf (n + 1)) log :=
      ⟨⟨due?_join table.recorder hfirst moment.time grace moment.state, hstate⟩, houtcome⟩
    refine ⟨n, ⟨p, stopped, last, sound⟩, fun later => ?_⟩
    have hlater : ((moment.act table.recorder (.join grace)).after table.recorder later).Done
        (table.seriesOf (n + 1)) log := hdone.after later
    refine ⟨?_, hlater.outcome_eq, hlater.stats⟩
    rw [hlater.state_eq]
    exact hcounts

/-! ### Whole histories -/

/-- What a sampler asks for and what it keeps, when its owner has done some things with it. -/
structure Timeline (table : Timetable) (actions : List Action) : Prop where
  /-- Its history shows what is seen at each moment, with the requests until then. -/
  shown : ∀ k, (h : k < actions.length) →
    (table.unasked.history table.recorder actions)[k]?
      = some ((table.watch (actions.take k)).see table.recorder actions[k])
  /-- The requests are the first ones of the timetable, in order and with their times. -/
  requests : (table.watch actions).state = table.requests (table.watch actions).state.length
  /-- They have been made in turn at every moment until now. -/
  inTurn : ∀ log, log <+: (table.watch actions).state → InTurn (countsOf log)
  /-- Nobody has stopped the sampler or waited for it yet.  If its owner then sleeps or waits for
  it, and there is no fault until that is over, then a request has been made just when its time has
  come. -/
  running : (∀ grace, .join grace ∉ actions) → .stop ∉ actions →
    ∀ ms, ∀ action ∈ [Action.sleep ms, .join ms],
      (∀ k, table.answeredTo k ≤ (table.watch actions).time + ms →
        (table.answerTo k).sample ≠ .crash) →
      ∀ k, k < (table.watch (actions ++ [action])).state.length ↔
        (table.request k).time ≤ (table.watch actions).time + ms
  /-- Nobody has waited for the sampler yet.  If a wait for it then says that its samples are kept,
  they are those of the ticks up to the one in which it was stopped, whatever happens later. -/
  joined : (∀ grace, .join grace ∉ actions) →
    ∀ grace, ((table.watch actions).join table.recorder grace).joined = true →
      ∃ n, table.EndsWith (stopTime? table.start actions) n ∧
        ∀ later, table.Kept n (table.watch (actions ++ .join grace :: later))

/-- Whatever is done with a sampler, its requests are the first ones of its timetable. -/
theorem records_watch (hinterval : 0 < table.interval) (actions : List Action) :
    table.Records (table.watch actions).state := by
  obtain hfree | ⟨before, grace, later, hfree, rfl⟩ := exists_first_join actions
  · exact (watched_watch hinterval hfree).records
  · have hbefore := watched_watch hinterval hfree
    obtain ⟨outcome, hdone, -⟩ := Moment.done_join table.recorder hbefore.unjoined.outcome grace
    have hstate : (table.watch (before ++ .join grace :: later)).state
        = ((table.watch before).sampler.loop.advance table.recorder
            ((table.watch before).time + grace) (table.watch before).state).2 := by
      rw [watch, Moment.after_append, Moment.after_cons]
      exact (hdone.after later).state_eq.trans
        (join_state table.recorder hbefore.unjoined.outcome _ grace _)
    rw [hstate]
    exact (hbefore.recorded.advance hinterval (Nat.le_add_right _ grace)).records

/-- **The timeline of a sampler**, whatever its owner does with it. -/
theorem timeline (table : Timetable) (hinterval : 0 < table.interval) (actions : List Action) :
    table.Timeline actions := by
  have hrecords := records_watch hinterval actions
  constructor
  · exact fun _ => Moment.getElem?_history table.recorder table.unasked
  · exact hrecords
  · intro log hprefix
    rw [hrecords] at hprefix
    rw [eq_requests hprefix]
    exact inTurn_requests hinterval log.length
  · intro hfree hrunning ms action haction hsound
    have hwatched := watched_watch hinterval hfree
    rw [stopTime?_eq_none hrunning] at hwatched
    have hstate : (table.watch (actions ++ [action])).state
        = ((table.watch actions).sampler.loop.advance table.recorder
            ((table.watch actions).time + ms) (table.watch actions).state).2 := by
      rw [watch_concat]
      obtain rfl | rfl : action = .sleep ms ∨ action = .join ms := by simpa using haction
      · rfl
      · exact join_state table.recorder hwatched.unjoined.outcome _ ms _
    rw [hstate]
    exact (hwatched.recorded.advance hinterval (Nat.le_add_right _ ms)).lt_length_iff hinterval
      (fun _ => Loop.lt_due_advance _ _) hsound
  · intro hfree grace hjoined
    obtain ⟨n, hends, hkept⟩ := (watched_watch hinterval hfree).kept hinterval hjoined
    refine ⟨n, hends, fun later => ?_⟩
    rw [watch, Moment.after_append, Moment.after_cons]
    exact hkept later

/-- A source that gets slower and slower, without any value for the maximum. -/
def slowing : Timetable where
  answer
    | .used, n => ⟨n + 2, .value (.ofNat n)⟩
    | .max, _ => ⟨1, .missing⟩
    | .committed, _ => ⟨0, .value (.ofNat 7)⟩
  interval := 5
  start := 0

/-- A sampler that is stopped in its second tick has asked four times by then, and it keeps two
samples each of the metrics that have values. -/
theorem watch_slowing :
    0 < slowing.interval ∧ slowing.Timeline [] ∧ slowing.Timeline [.sleep 9] ∧
      slowing.Timeline [.sleep 9, .stop] ∧
      (slowing.watch [.sleep 9]).state = [⟨.used, 0⟩, ⟨.max, 2⟩, ⟨.committed, 3⟩, ⟨.used, 8⟩] ∧
      ((slowing.watch [.sleep 9, .stop]).join slowing.recorder 100).joined = true ∧
      (slowing.watch [.sleep 9, .stop, .join 100]).sampler.outcome
        = some (some ⟨[.ofNat 0, .ofNat 1], [], [.ofNat 7, .ofNat 7]⟩) := by
  have hinterval : 0 < slowing.interval := by decide
  have hfirst := timeline slowing hinterval []
  have hslept := timeline slowing hinterval [.sleep 9]
  have hstopped := timeline slowing hinterval [.sleep 9, .stop]
  have hsound : ∀ metric n, (slowing.answer metric n).sample ≠ .crash := by
    intro metric n
    cases metric <;> simp [slowing]
  have hmade := hfirst.running (by simp) (by simp) 9 (.sleep 9) (by simp) fun k _ => hsound _ _
  have hlength : (slowing.watch [.sleep 9]).state.length = 4 := by
    have hthree := (hmade 3).mpr (by decide)
    have hfour := mt (hmade 4).mp (by decide)
    simp only [List.nil_append] at hthree hfour
    omega
  have hstate := hslept.requests
  rw [hlength] at hstate
  have hfree : ∀ grace, .join grace ∉ [Action.sleep 9, .stop] := by simp
  have hends : slowing.EndsWith (some 9) 1 :=
    ⟨9, rfl, ⟨by decide, by decide⟩, fun _ _ metric => hsound metric _⟩
  have hjoined : ((slowing.watch [.sleep 9, .stop]).join slowing.recorder 100).joined = true := by
    rw [← Moment.join_map slowing.recorder_refines]
    exact ((watched_watch hinterval hfree).unjoined.firstJoin 100).joined_iff.mpr
      ⟨1, hends, by decide⟩
  obtain ⟨n, hends', hkept⟩ := hstopped.joined hfree 100 hjoined
  obtain rfl : 1 = n := hends.unique hends'
  exact ⟨hinterval, hfirst, hslept, hstopped, hstate, hjoined, (hkept []).outcome⟩

end Timetable

end QueueDrain.Heap
