import QueueDrain.Proofs.Heap.Moments
import QueueDrain.Proofs.Heap.Ticks

/-!
The life of a sampler.

What the first wait for a sampler brings is told from its timetable (`Timetable.FirstJoin`): the
samples are kept if it was asked to stop and its last tick ends in time, a fault ends it when it
comes, and otherwise it is abandoned after the grace.  From then on nothing changes (`Settled`).

* `Unjoined.after`: until the first wait a sampler is on its timetable;
* `Unjoined.firstJoin`: what the first wait brings;
* `Unjoined.get_le`: after a request to stop only the rest of the tick is asked for;
* `lifecycle`: all of it, for every sequence of actions.
-/

namespace QueueDrain.Heap

/-! ### Samplers that nobody has waited for -/

/-- When a list of actions first asks for a stop, if it does not wait for the loop. -/
def Sampler.stopTime? (time : Nat) : List Action → Option Nat
  | [] => none
  | .stop :: _ => some time
  | .sleep ms :: actions => stopTime? (time + ms) actions
  | _ :: actions => stopTime? time actions

open Sampler

namespace Timetable

/-- The moment at which a sampler is started. -/
def begin (table : Timetable) : Moment Counts where
  time := table.start
  sampler := .start table.interval table.start
  state := {}

/-- The moment after some actions on a new sampler. -/
def reach (table : Timetable) (actions : List Action) : Moment Counts :=
  table.begin.after table.source actions

/-- A sampler that nobody has waited for is on its timetable, with all done that was due. -/
structure Unjoined (table : Timetable) (stop? : Option Nat) (moment : Moment Counts) : Prop where
  outcome : moment.sampler.outcome = none
  follows : table.Follows stop? moment.time moment.sampler.loop moment.state
  caughtUp : moment.sampler.loop.CaughtUp moment.time
  started : table.start ≤ moment.time
  stopped : ∀ p, stop? = some p → table.start ≤ p ∧ p ≤ moment.time

variable {table : Timetable} {stop? : Option Nat} {moment : Moment Counts}

theorem Follows.isStopped {p time : Nat} {loop : Loop} {counts : Counts}
    (h : table.Follows (some p) time loop counts) : loop.IsStopped := by
  refine ⟨h.stopping, fun due hpausing => ?_⟩
  have hplace := h.place
  rw [hpausing] at hplace
  cases hplace with
  | pausing _ _ _ running => cases running

theorem unjoined_begin (table : Timetable) : table.Unjoined none table.begin where
  outcome := rfl
  follows := follows_start table
  caughtUp := Loop.caughtUp_start table.interval table.start
  started := Nat.le_refl _
  stopped := nofun

theorem Unjoined.sleep (h : table.Unjoined stop? moment) (ms : Nat) :
    table.Unjoined stop? (moment.act table.source (.sleep ms)) where
  outcome := h.outcome
  follows := h.follows.advance (Nat.le_add_right _ ms)
  caughtUp := Loop.caughtUp_advance table.source _ _ _
  started := Nat.le_trans h.started (Nat.le_add_right _ ms)
  stopped := fun p hp =>
    ⟨(h.stopped p hp).1, Nat.le_trans (h.stopped p hp).2 (Nat.le_add_right _ ms)⟩

/-- The first request to stop counts. -/
theorem Unjoined.stop (h : table.Unjoined stop? moment) :
    table.Unjoined (stop?.or (some moment.time)) (moment.act table.source .stop) := by
  cases stop? with
  | none =>
    exact ⟨h.outcome, h.follows.stop h.caughtUp, h.caughtUp.stop, h.started, fun p hp => by
      obtain rfl := Option.some.inj hp
      exact ⟨h.started, Nat.le_refl _⟩⟩
  | some p =>
    rw [Moment.act_stop_of_isStopped h.follows.isStopped]
    exact h

/-- **Until the first wait a sampler is on its timetable.** -/
theorem Unjoined.after (h : table.Unjoined stop? moment) {actions : List Action}
    (hfree : ∀ grace, .join grace ∉ actions) :
    table.Unjoined (stop?.or (stopTime? moment.time actions))
      (moment.after table.source actions) := by
  induction actions generalizing stop? moment with
  | nil =>
    rw [stopTime?, Option.or_none]
    exact h
  | cons action actions ih =>
    have hrest : ∀ grace, .join grace ∉ actions :=
      fun grace hmem => hfree grace (List.mem_cons_of_mem action hmem)
    cases action with
    | sleep ms => exact ih (h.sleep ms) hrest
    | stop =>
      have hstop := ih h.stop hrest
      rw [Option.or_assoc, Option.some_or] at hstop
      exact hstop
    | join grace => exact absurd List.mem_cons_self (hfree grace)
    | stats => exact ih h hrest

/-! ### The first wait -/

variable (table stop?)

/-- A loop that was asked to stop ends with the n-th tick if no fault ends it before. -/
def EndsWith (n : Nat) : Prop :=
  ∃ p, stop? = some p ∧ table.LastTick p n ∧ ∀ k ≤ n, table.Sound k

/-- A fault ends the loop at some time: the first one, if its tick still begins before the stop. -/
def CrashesAt (time : Nat) : Prop :=
  ∃ n metric, table.CrashesIn n metric ∧ (∀ p, stop? = some p → table.tickStart n ≤ p) ∧
    time = table.answeredAt n metric

/-- What the first wait for a loop brings that was asked to stop at `stop?` if at all. -/
structure FirstJoin (time grace : Nat) (join : Join) : Prop where
  /-- The samples are kept if the last tick of the loop ends within the grace. -/
  joined_iff : join.joined = true ↔
    ∃ n, table.EndsWith stop? n ∧ table.tickEnd n ≤ time + grace
  /-- The wait is then over with that tick, or at once. -/
  kept : ∀ n, table.EndsWith stop? n → table.tickEnd n ≤ time + grace →
    join.time = max time (table.tickEnd n)
  /-- A fault within the grace loses the samples, and the wait is over with it, or at once. -/
  crashed : ∀ fault, table.CrashesAt stop? fault → fault ≤ time + grace →
    join.joined = false ∧ join.time = max time fault
  /-- A loop that neither ends nor has a fault within the grace is abandoned after the grace. -/
  abandoned : (∀ n, table.EndsWith stop? n → time + grace < table.tickEnd n) →
    (∀ fault, table.CrashesAt stop? fault → time + grace < fault) →
    join.joined = false ∧ join.time = time + grace ∧ join.sampler.loop.activity = .aborted

variable {table stop?}

theorem EndsWith.unique {n k : Nat} (h : table.EndsWith stop? n) (hk : table.EndsWith stop? k) :
    n = k := by
  obtain ⟨p, hp, hlast, -⟩ := h
  obtain ⟨p', hp', hlast', -⟩ := hk
  obtain rfl : p = p' := Option.some.inj (hp.symm.trans hp')
  exact hlast.unique hlast'

/-- A loop ends with its last tick or with a fault. -/
theorem EndsWith.not_crashesAt {n fault : Nat} (h : table.EndsWith stop? n) :
    ¬table.CrashesAt stop? fault := by
  rintro ⟨k, metric, hcrash, hbegun, -⟩
  obtain ⟨p, hp, hlast, hsound⟩ := h
  exact hsound k (hlast.le (hbegun p hp)) metric hcrash.crash

theorem CrashesAt.unique {fault fault' : Nat} (h : table.CrashesAt stop? fault)
    (h' : table.CrashesAt stop? fault') : fault = fault' := by
  obtain ⟨n, metric, hcrash, -, rfl⟩ := h
  obtain ⟨k, metric', hcrash', -, rfl⟩ := h'
  exact Nat.le_antisymm (hcrash'.le_answeredAt hcrash.toSoundBefore)
    (hcrash.le_answeredAt hcrash'.toSoundBefore)

variable {time grace : Nat} {join : Join}

theorem firstJoin_of_endsWith {n : Nat} (h : table.EndsWith stop? n)
    (hend : table.tickEnd n ≤ time + grace) (hjoined : join.joined = true)
    (htime : join.time = max time (table.tickEnd n)) : table.FirstJoin stop? time grace join where
  joined_iff := iff_of_true hjoined ⟨n, h, hend⟩
  kept := fun _ hk _ => h.unique hk ▸ htime
  crashed := fun _ hcrash => absurd hcrash h.not_crashesAt
  abandoned := fun hlate => absurd hend (Nat.not_le_of_lt (hlate n h))

theorem firstJoin_of_crashesAt {fault : Nat} (h : table.CrashesAt stop? fault)
    (hfault : fault ≤ time + grace) (hjoined : join.joined = false)
    (htime : join.time = max time fault) : table.FirstJoin stop? time grace join where
  joined_iff := iff_of_false (by simp [hjoined]) fun ⟨_, hends, _⟩ => hends.not_crashesAt h
  kept := fun _ hends => absurd h hends.not_crashesAt
  crashed := fun _ hcrash _ => h.unique hcrash ▸ ⟨hjoined, htime⟩
  abandoned := fun _ hlate => absurd hfault (Nat.not_le_of_lt (hlate fault h))

theorem firstJoin_of_running
    (hend : ∀ n, table.EndsWith stop? n → time + grace < table.tickEnd n)
    (hcrash : ∀ fault, table.CrashesAt stop? fault → time + grace < fault)
    (hjoined : join.joined = false) (htime : join.time = time + grace)
    (haborted : join.sampler.loop.activity = .aborted) :
    table.FirstJoin stop? time grace join where
  joined_iff := iff_of_false (by simp [hjoined]) fun ⟨n, hends, hle⟩ =>
    absurd hle (Nat.not_le_of_lt (hend n hends))
  kept := fun n hends hle => absurd hle (Nat.not_le_of_lt (hend n hends))
  crashed := fun fault hfault hle => absurd hle (Nat.not_le_of_lt (hcrash fault hfault))
  abandoned := fun _ _ => ⟨hjoined, htime, haborted⟩

/-- A loop that gets a later answer without a fault before it neither ends nor has a fault yet. -/
theorem lt_of_lt_answeredAt {n : Nat} {metric : Metric} {limit : Nat}
    (hstop : ∀ p, stop? = some p → table.tickStart n ≤ p) (hsound : table.SoundBefore n metric)
    (hlate : limit < table.answeredAt n metric) :
    (∀ k, table.EndsWith stop? k → limit < table.tickEnd k) ∧
      ∀ fault, table.CrashesAt stop? fault → limit < fault := by
  constructor
  · rintro k ⟨p, hp, hlast, -⟩
    have hle : n ≤ k := hlast.le (hstop p hp)
    calc limit < table.answeredAt n metric := hlate
      _ ≤ table.tickEnd n := table.answeredAt_le_tickEnd n metric
      _ ≤ table.tickEnd k := table.tickEnd_monotone hle
  · rintro fault ⟨k, metric', hcrash, -, rfl⟩
    exact Nat.lt_of_lt_of_le hlate (hcrash.le_answeredAt hsound)

/-- **What the first wait brings** is told from the timetable. -/
theorem Unjoined.firstJoin (h : table.Unjoined stop? moment) (grace : Nat) :
    table.FirstJoin stop? moment.time grace (moment.join table.source grace) := by
  have hfollows := h.follows.advance (Nat.le_add_right moment.time grace)
  have hlate : ∀ due, (moment.sampler.loop.advance table.source (moment.time + grace)
      moment.state).1.due? = some due → moment.time + grace < due :=
    fun due => Loop.lt_due_advance moment.sampler.loop moment.state
  rcases hadvance : moment.sampler.loop.advance table.source (moment.time + grace) moment.state
    with ⟨⟨interval, activity, stopping, series⟩, counts⟩
  rw [hadvance] at hfollows hlate
  obtain ⟨-, -, hplace⟩ := hfollows
  cases hplace with
  | ready started _ => exact absurd started (Nat.not_le_of_lt (hlate table.start rfl))
  | fetching n metric _ sound stopped =>
    obtain ⟨hend, hcrash⟩ :=
      lt_of_lt_answeredAt (fun p hp => (stopped p hp).1) sound (hlate _ rfl)
    rw [Moment.join, join_of_live h.outcome hadvance rfl]
    exact firstJoin_of_running hend hcrash rfl rfl rfl
  | pausing n _ sound running =>
    -- the next tick begins later than the grace ends
    have hanswer : moment.time + grace < table.answeredAt (n + 1) .used :=
      Nat.lt_of_lt_of_le (hlate _ rfl) (table.tickStart_le_answeredAt (n + 1) .used)
    have hstop : ∀ p, stop? = some p → table.tickStart (n + 1) ≤ p := by
      rw [running]
      nofun
    obtain ⟨hend, hcrash⟩ := lt_of_lt_answeredAt hstop (.succ sound) hanswer
    rw [Moment.join, join_of_live h.outcome hadvance rfl]
    exact firstJoin_of_running hend hcrash rfl rfl rfl
  | finished p n ended sound stopped last =>
    rw [Moment.join, join_of_finished h.outcome hadvance rfl]
    refine firstJoin_of_endsWith ⟨p, stopped, last, sound⟩ ?_ rfl ?_
    · exact Nat.le_trans (Nat.le_max_right _ _) ended
    · have hle := (h.stopped p stopped).2
      dsimp only
      omega
  | crashed n metric answered crash stopped =>
    rw [Moment.join, join_of_crashed h.outcome hadvance rfl]
    exact firstJoin_of_crashesAt ⟨n, metric, crash, stopped, rfl⟩ answered rfl rfl

/-! ### The rest of its life -/

/-- A sampler that somebody has waited for, at a later moment than the first. -/
structure Settled (table : Timetable) (joined : Bool) (first later : Moment Counts) : Prop where
  /-- A later wait takes no time, and says the same. -/
  join_again : ∀ grace, later.see table.source (.join grace)
    = { time := later.time, state := first.state, joined := some joined }
  stats_eq : later.sampler.stats = first.sampler.stats
  /-- Without samples there are no statistics. -/
  stats_lost : joined = false → later.sampler.stats = {}
  /-- Nothing more is asked for. -/
  state_eq : later.state = first.state

theorem Unjoined.settled (h : table.Unjoined stop? moment) (grace : Nat) (actions : List Action) :
    table.Settled (moment.join table.source grace).joined
      (moment.act table.source (.join grace))
      ((moment.act table.source (.join grace)).after table.source actions) := by
  obtain ⟨outcome, hdone, hjoined⟩ := Moment.done_join table.source h.outcome grace
  have hlater : ((moment.act table.source (.join grace)).after table.source actions).Done outcome
      (moment.act table.source (.join grace)).state := hdone.after actions
  rw [hjoined]
  refine ⟨hlater.see_join, hlater.stats.trans hdone.stats.symm, fun hlost => ?_, hlater.state_eq⟩
  rw [hlater.stats]
  cases outcome with
  | none => rfl
  | some series => cases hlost

theorem Unjoined.get_le {p n : Nat} (h : table.Unjoined (some p) moment)
    (hlast : table.LastTick p n) (actions : List Action) (metric : Metric) :
    (moment.after table.source actions).state.get metric ≤ n + 1 := by
  induction actions generalizing moment with
  | nil => exact h.follows.get_le hlast metric
  | cons action actions ih =>
    cases action with
    | sleep ms => exact ih (h.sleep ms)
    | stop => exact ih h.stop
    | join grace =>
      have hstate : (moment.act table.source (.join grace)).state
          = (moment.sampler.loop.advance table.source (moment.time + grace) moment.state).2 :=
        join_state table.source h.outcome moment.time grace moment.state
      have hfollows := h.follows.advance (Nat.le_add_right moment.time grace)
      rw [Moment.after_cons, (h.settled grace actions).state_eq, hstate]
      exact hfollows.get_le hlast metric
    | stats => exact ih h

/-- A loop that was pausing when it was asked to stop is over. -/
theorem Unjoined.idle {p n : Nat} (h : table.Unjoined (some p) moment)
    (hlast : table.LastTick p n) (hend : table.tickEnd n < p) : moment.Idle moment.state := by
  refine ⟨?_, rfl⟩
  obtain ⟨time, ⟨⟨interval, activity, stopping, series⟩, outcome⟩, counts⟩ := moment
  obtain ⟨-, -, hplace⟩ := h.follows
  cases hplace with
  | ready _ stopped =>
    have hstart : table.start ≤ table.tickStart n :=
      table.tickStart_strictMono.monotone (Nat.zero_le n)
    have htick := table.tickStart_le_tickEnd n
    have hp := stopped p rfl
    omega
  | fetching k metric _ _ stopped =>
    obtain ⟨hbegun, hle⟩ := stopped p rfl
    have hmono : table.tickEnd k ≤ table.tickEnd n := table.tickEnd_monotone (hlast.le hbegun)
    omega
  | pausing _ _ _ running => cases running
  | finished => rfl
  | crashed => rfl

/-- What a loop asks for after it was asked to stop at `p`, in its n-th tick. -/
structure AfterStop (table : Timetable) (p n : Nat) (moment : Moment Counts) : Prop where
  last : table.LastTick p n
  /-- There are no requests beyond those of the last tick. -/
  get_le : ∀ actions metric, (moment.after table.source actions).state.get metric ≤ n + 1
  /-- There are none at all if the loop was pausing. -/
  state_eq : table.tickEnd n < p →
    ∀ actions, (moment.after table.source actions).state = moment.state

/-- The life of a sampler whose owner has done some things with it, but has not waited for it. -/
structure Lifecycle (table : Timetable) (before : List Action) : Prop where
  /-- Its history shows what is seen at each of its moments. -/
  shown : ∀ actions k, (h : k < (before ++ actions).length) →
    (table.begin.history table.source (before ++ actions))[k]?
      = some ((table.reach ((before ++ actions).take k)).see table.source (before ++ actions)[k])
  /-- There are no statistics yet. -/
  stats_eq : (table.reach before).sampler.stats = {}
  first : ∀ grace, table.FirstJoin (stopTime? table.start before) (table.reach before).time grace
    ((table.reach before).join table.source grace)
  /-- Whatever happens after the first wait, nothing changes any more. -/
  settled : ∀ grace actions, table.Settled ((table.reach before).join table.source grace).joined
    (table.reach (before ++ [.join grace])) (table.reach (before ++ .join grace :: actions))
  /-- A second request to stop changes nothing, whatever has happened since the first. -/
  stop_again : ∀ actions, (table.reach (before ++ .stop :: actions)).act table.source .stop
    = table.reach (before ++ .stop :: actions)
  after_stop : ∀ p, stopTime? table.start before = some p →
    ∃ n, table.AfterStop p n (table.reach before)
  /-- A sampler that is given up asks for nothing, whatever was done with it before. -/
  after_drop : ∀ actions limit,
    ((table.reach (before ++ actions)).sampler.drop.advance table.source limit
      (table.reach (before ++ actions)).state).2 = (table.reach (before ++ actions)).state

/-- **The life of a sampler**, whatever its owner does with it. -/
theorem lifecycle (table : Timetable) {before : List Action}
    (hfree : ∀ grace, .join grace ∉ before) : table.Lifecycle before := by
  have hbefore : table.Unjoined (stopTime? table.start before) (table.reach before) :=
    (unjoined_begin table).after hfree
  have hreach : ∀ actions, table.reach (before ++ actions)
      = (table.reach before).after table.source actions := Moment.after_append before
  constructor
  · exact fun _ _ => Moment.getElem?_history table.source table.begin
  · exact stats_of_outcome_eq_none hbefore.outcome
  · exact hbefore.firstJoin
  · intro grace actions
    rw [hreach, hreach]
    exact hbefore.settled grace actions
  · intro actions
    rw [hreach, Moment.after_cons]
    exact Moment.act_stop_of_isStopped
      (Moment.isStopped_after (Loop.isStopped_stop _ _) actions)
  · intro p hp
    rw [hp] at hbefore
    obtain ⟨n, hlast⟩ := exists_lastTick (hbefore.stopped p rfl).1
    refine ⟨n, hlast, hbefore.get_le hlast, fun hend actions => ?_⟩
    exact ((hbefore.idle hlast hend).after actions).state_eq
  · intro actions limit
    exact advance_drop table.source _ limit _

/-- A source that takes three milliseconds for every answer, asked every ten milliseconds. -/
def steady : Timetable where
  answer := fun _ _ => ⟨3, .value (.ofNat 1024)⟩
  interval := 10
  start := 0

/-- A sampler that is stopped in its first tick keeps the samples of that tick. -/
theorem join_steady :
    (∀ grace, .join grace ∉ [Action.sleep 5, .stop]) ∧
      steady.Lifecycle [.sleep 5, .stop] ∧
      ((steady.reach [.sleep 5, .stop]).join steady.source 100).joined = true ∧
      ((steady.reach [.sleep 5, .stop]).join steady.source 100).time = 9 := by
  have hfree : ∀ grace, .join grace ∉ [Action.sleep 5, .stop] := by simp
  have hlife : steady.Lifecycle [.sleep 5, .stop] := lifecycle steady hfree
  have hends : steady.EndsWith (some 5) 0 :=
    ⟨5, rfl, ⟨by decide, by decide⟩, fun _ _ _ => nofun⟩
  have hjoined := (hlife.first 100).joined_iff.mpr ⟨0, hends, by decide⟩
  exact ⟨hfree, hlife, hjoined, (hlife.first 100).kept 0 hends (by decide)⟩

end Timetable

end QueueDrain.Heap
