import Mathlib.Data.Nat.Find
import Mathlib.Order.WellFounded
import QueueDrain.Proofs.Heap.Loop

/-!
The ticks of a sampling loop.

A loop that nobody stops follows a timetable, which the answers of its source and its interval fix:
the n-th tick makes the n-th request for each metric, one after the other, and the next tick begins
a pause after the end of this one.

* `Timetable.tickStart`, `askedAt`, `answeredAt`, `tickEnd`: the timetable itself, in closed form;
* `Timetable.LastTick`: the last tick that has begun by some time;
* `Timetable.Follows`: where on its timetable a loop is, up to a fault and up to the end of the tick
  in which it is asked to stop;
* `Follows.fire`, `Follows.advance`, `Follows.stop`: a loop stays on its timetable.
-/

namespace QueueDrain.Heap

/-- The place of a metric in a tick. -/
def Metric.place : Metric → Nat
  | .used => 0
  | .max => 1
  | .committed => 2

/-- How often each metric has been asked for once the n-th tick has asked for one. -/
def Counts.during (n : Nat) : Metric → Counts
  | .used => ⟨n + 1, n, n⟩
  | .max => ⟨n + 1, n + 1, n⟩
  | .committed => ⟨n + 1, n + 1, n + 1⟩

theorem Counts.get_during_le (n : Nat) (metric metric' : Metric) :
    (Counts.during n metric).get metric' ≤ n + 1 := by
  cases metric <;> cases metric' <;> simp [during, get]

/-- A loop that has done all that was due by some time, unless it was started at that very time. -/
def Loop.CaughtUp (time : Nat) (loop : Loop) : Prop :=
  ∀ due, loop.due? = some due → time < due ∨ loop.activity = .ready time

namespace Loop

theorem caughtUp_start (interval time : Nat) : (start interval time).CaughtUp time :=
  fun _ _ => Or.inr rfl

theorem caughtUp_advance {σ : Type} (source : Source σ) (limit : Nat) (loop : Loop) (state : σ) :
    (loop.advance source limit state).1.CaughtUp limit :=
  fun _ hdue => Or.inl (lt_due_advance loop state hdue)

theorem CaughtUp.stop {time : Nat} {loop : Loop} (h : loop.CaughtUp time) :
    (loop.stop time).CaughtUp time := by
  intro due hdue
  obtain hlt | hready := h due (due?_of_due?_stop hdue)
  · exact Or.inl hlt
  · refine Or.inr ?_
    rw [Loop.stop, hready]

end Loop

/-- A sampling loop that nobody stops. -/
structure Timetable where
  /-- The answer to the n-th request for a metric, counted from zero. -/
  answer : Metric → Nat → SampleReply
  /-- The pause between two ticks, in milliseconds; it takes at least one. -/
  interval : Nat
  start : Nat

namespace Timetable

/-- The source that gives the answers. -/
def source (table : Timetable) : Source Counts := .ofScript table.answer

variable (table : Timetable)

/-! ### The timetable -/

/-- How long a tick takes before it asks for a metric. -/
def lead (n : Nat) : Metric → Nat
  | .used => 0
  | .max => (table.answer .used n).delayMs
  | .committed => (table.answer .used n).delayMs + (table.answer .max n).delayMs

/-- When the n-th tick begins, counted from zero. -/
def tickStart : Nat → Nat
  | 0 => table.start
  | n + 1 =>
    tickStart n + table.lead n .committed + (table.answer .committed n).delayMs
      + max 1 table.interval

/-- When the n-th tick asks for a metric. -/
def askedAt (n : Nat) (metric : Metric) : Nat := table.tickStart n + table.lead n metric

/-- When the n-th tick has the answer for a metric. -/
def answeredAt (n : Nat) (metric : Metric) : Nat :=
  table.askedAt n metric + (table.answer metric n).delayMs

/-- When the n-th tick ends. -/
def tickEnd (n : Nat) : Nat := table.answeredAt n .committed

/-- The n-th tick is the last that has begun by some time. -/
def LastTick (time n : Nat) : Prop := table.tickStart n ≤ time ∧ time < table.tickStart (n + 1)

theorem tickStart_succ (n : Nat) :
    table.tickStart (n + 1) = table.tickEnd n + max 1 table.interval := rfl

theorem tickStart_le_askedAt (n : Nat) (metric : Metric) :
    table.tickStart n ≤ table.askedAt n metric := Nat.le_add_right _ _

theorem askedAt_le_answeredAt (n : Nat) (metric : Metric) :
    table.askedAt n metric ≤ table.answeredAt n metric := Nat.le_add_right _ _

/-- A tick asks for its metrics one after the other. -/
theorem answeredAt_le_askedAt (n : Nat) {metric metric' : Metric}
    (h : metric.place < metric'.place) : table.answeredAt n metric ≤ table.askedAt n metric' := by
  cases metric <;> cases metric' <;> simp only [Metric.place] at h <;>
    simp only [answeredAt, askedAt, lead] <;> omega

theorem answeredAt_le_answeredAt (n : Nat) {metric metric' : Metric}
    (h : metric.place ≤ metric'.place) :
    table.answeredAt n metric ≤ table.answeredAt n metric' := by
  by_cases hlt : metric.place < metric'.place
  · exact Nat.le_trans (table.answeredAt_le_askedAt n hlt) (table.askedAt_le_answeredAt n metric')
  · obtain rfl : metric = metric' := by
      cases metric <;> cases metric' <;> simp_all [Metric.place]
    exact Nat.le_refl _

theorem answeredAt_le_tickEnd (n : Nat) (metric : Metric) :
    table.answeredAt n metric ≤ table.tickEnd n :=
  table.answeredAt_le_answeredAt n (by cases metric <;> decide)

theorem tickStart_le_answeredAt (n : Nat) (metric : Metric) :
    table.tickStart n ≤ table.answeredAt n metric :=
  Nat.le_trans (table.tickStart_le_askedAt n metric) (table.askedAt_le_answeredAt n metric)

theorem tickStart_le_tickEnd (n : Nat) : table.tickStart n ≤ table.tickEnd n :=
  table.tickStart_le_answeredAt n .committed

theorem tickEnd_lt_tickStart_succ (n : Nat) : table.tickEnd n < table.tickStart (n + 1) := by
  rw [tickStart_succ]
  omega

theorem tickStart_strictMono : StrictMono table.tickStart :=
  strictMono_nat_of_lt_succ fun n =>
    Nat.lt_of_le_of_lt (table.tickStart_le_tickEnd n) (table.tickEnd_lt_tickStart_succ n)

theorem tickEnd_monotone : Monotone table.tickEnd := by
  refine monotone_nat_of_le_succ fun n => ?_
  have hpause := table.tickEnd_lt_tickStart_succ n
  have hnext := table.tickStart_le_tickEnd (n + 1)
  omega

variable {table}

/-- A tick that has begun by some time is not later than the last one. -/
theorem LastTick.le {time n k : Nat} (h : table.LastTick time n) (hk : table.tickStart k ≤ time) :
    k ≤ n := by
  have hlt : table.tickStart k < table.tickStart (n + 1) := Nat.lt_of_le_of_lt hk h.2
  exact Nat.lt_succ_iff.mp (table.tickStart_strictMono.lt_iff_lt.mp hlt)

theorem LastTick.unique {time n k : Nat} (h : table.LastTick time n) (hk : table.LastTick time k) :
    n = k :=
  Nat.le_antisymm (hk.le h.1) (h.le hk.1)

/-- From the start on there is always a last tick. -/
theorem exists_lastTick {time : Nat} (h : table.start ≤ time) : ∃ n, table.LastTick time n := by
  have hle : ∀ n, n ≤ table.tickStart n := fun _ => table.tickStart_strictMono.le_apply
  refine ⟨Nat.findGreatest (fun n => table.tickStart n ≤ time) time, ?_, ?_⟩
  · exact Nat.findGreatest_spec (P := fun n => table.tickStart n ≤ time) (Nat.zero_le time) h
  · refine Nat.lt_of_not_le fun hnext => ?_
    have hbound := Nat.le_trans (hle _) hnext
    exact Nat.findGreatest_is_greatest (Nat.lt_succ_self _) hbound hnext

/-! ### Faults -/

variable (table)

/-- A tick all whose requests are answered without a fault. -/
def Sound (n : Nat) : Prop := ∀ metric, (table.answer metric n).sample ≠ .crash

/-- There is no fault before the n-th tick asks for a metric. -/
structure SoundBefore (n : Nat) (metric : Metric) : Prop where
  tick : ∀ k < n, table.Sound k
  request : ∀ metric', metric'.place < metric.place → (table.answer metric' n).sample ≠ .crash

/-- The first fault is the answer that the n-th tick gets for a metric. -/
structure CrashesIn (n : Nat) (metric : Metric) : Prop extends table.SoundBefore n metric where
  crash : (table.answer metric n).sample = .crash

variable {table}

theorem SoundBefore.succ {n : Nat} (h : ∀ k ≤ n, table.Sound k) :
    table.SoundBefore (n + 1) .used :=
  ⟨fun k hk => h k (Nat.lt_succ_iff.mp hk), fun _ hlt => absurd hlt (Nat.not_lt_zero _)⟩

theorem SoundBefore.next {n : Nat} {metric metric' : Metric} (h : table.SoundBefore n metric)
    (hsound : (table.answer metric n).sample ≠ .crash) (hplace : metric'.place = metric.place + 1) :
    table.SoundBefore n metric' := by
  refine ⟨h.tick, fun metric'' hlt => ?_⟩
  by_cases heq : metric'' = metric
  · exact heq ▸ hsound
  · refine h.request metric'' ?_
    cases metric <;> cases metric'' <;> simp_all [Metric.place]

theorem SoundBefore.sound {n : Nat} (h : table.SoundBefore n .committed)
    (hsound : (table.answer .committed n).sample ≠ .crash) : ∀ k ≤ n, table.Sound k := by
  intro k hk
  by_cases hlt : k < n
  · exact h.tick k hlt
  · obtain rfl : k = n := by omega
    intro metric
    cases metric with
    | used => exact h.request .used (by decide)
    | max => exact h.request .max (by decide)
    | committed => exact hsound

/-- Nothing before the first fault can be a fault. -/
theorem CrashesIn.le_answeredAt {n k : Nat} {metric metric' : Metric}
    (h : table.CrashesIn k metric') (hsound : table.SoundBefore n metric) :
    table.answeredAt n metric ≤ table.answeredAt k metric' := by
  rcases Nat.lt_trichotomy k n with hlt | rfl | hgt
  · exact absurd h.crash (hsound.tick k hlt metric')
  · refine table.answeredAt_le_answeredAt k (Nat.le_of_not_lt fun hlt => ?_)
    exact hsound.request metric' hlt h.crash
  · have hend := table.answeredAt_le_tickEnd n metric
    have hnext := table.tickEnd_lt_tickStart_succ n
    have hstart : table.tickStart (n + 1) ≤ table.tickStart k :=
      table.tickStart_strictMono.monotone hgt
    have hanswer := table.tickStart_le_answeredAt k metric'
    omega

/-! ### Loops on their timetable -/

variable (table)

/--
What a loop on its timetable is doing, and how often it has asked for each metric, if all that it
has done was due by some time, and it may have been asked to stop at some time.
-/
inductive At (stop? : Option Nat) (time : Nat) : Activity → Counts → Prop
  | ready (started : table.start ≤ time) (stopped : ∀ p, stop? = some p → p = table.start) :
    At stop? time (.ready table.start) {}
  | fetching (n : Nat) (metric : Metric) (asked : table.askedAt n metric ≤ time)
    (sound : table.SoundBefore n metric)
    (stopped : ∀ p, stop? = some p → table.tickStart n ≤ p ∧ p ≤ table.tickEnd n) :
    At stop? time
      (.fetching metric (table.answer metric n).sample (table.answeredAt n metric))
      (.during n metric)
  | pausing (n : Nat) (ended : table.tickEnd n ≤ time) (sound : ∀ k ≤ n, table.Sound k)
    (running : stop? = none) :
    At stop? time (.pausing (table.tickStart (n + 1))) (.during n .committed)
  | finished (p n : Nat) (ended : max p (table.tickEnd n) ≤ time)
    (sound : ∀ k ≤ n, table.Sound k) (stopped : stop? = some p) (last : table.LastTick p n) :
    At stop? time (.finished (max p (table.tickEnd n))) (.during n .committed)
  | crashed (n : Nat) (metric : Metric) (answered : table.answeredAt n metric ≤ time)
    (crash : table.CrashesIn n metric) (stopped : ∀ p, stop? = some p → table.tickStart n ≤ p) :
    At stop? time (.crashed (table.answeredAt n metric)) (.during n metric)

/-- A loop on its timetable, at some time, which was asked to stop at `stop?` if at all. -/
structure Follows (stop? : Option Nat) (time : Nat) (loop : Loop) (counts : Counts) : Prop where
  interval : loop.interval = table.interval
  stopping : loop.stopping = stop?.isSome
  place : table.At stop? time loop.activity counts

variable {table} {stop? : Option Nat} {time limit : Nat} {loop : Loop} {counts : Counts}

theorem At.mono {activity : Activity} (h : table.At stop? time activity counts)
    (hle : time ≤ limit) : table.At stop? limit activity counts := by
  cases h with
  | ready started stopped => exact .ready (by omega) stopped
  | fetching n metric asked sound stopped => exact .fetching n metric (by omega) sound stopped
  | pausing n ended sound running => exact .pausing n (by omega) sound running
  | finished p n ended sound stopped last => exact .finished p n (by omega) sound stopped last
  | crashed n metric answered crash stopped => exact .crashed n metric (by omega) crash stopped

theorem Follows.mono (h : table.Follows stop? time loop counts) (hle : time ≤ limit) :
    table.Follows stop? limit loop counts :=
  ⟨h.interval, h.stopping, h.place.mono hle⟩

theorem follows_start (table : Timetable) :
    table.Follows none table.start (Loop.start table.interval table.start) {} :=
  ⟨rfl, rfl, .ready (Nat.le_refl _) nofun⟩

/-- The n-th request for a metric brings the loop to its place in the n-th tick. -/
theorem Follows.ask {n : Nat} {metric : Metric} (hinterval : loop.interval = table.interval)
    (hstopping : loop.stopping = stop?.isSome) (hasked : table.askedAt n metric ≤ time)
    (hcount : counts.get metric = n) (hadd : counts.add metric = .during n metric)
    (hsound : table.SoundBefore n metric)
    (hstop : ∀ p, stop? = some p → table.tickStart n ≤ p ∧ p ≤ table.tickEnd n) :
    table.Follows stop? time
      (loop.ask table.source metric (table.askedAt n metric) counts).1
      (loop.ask table.source metric (table.askedAt n metric) counts).2 := by
  refine ⟨hinterval, hstopping, ?_⟩
  simp only [Loop.ask, source, Source.ofScript]
  rw [hcount, hadd]
  exact .fetching n metric hasked hsound hstop

/-- After an answer without a fault the loop asks for the next metric, or its tick is over. -/
theorem Follows.next {n : Nat} {metric : Metric} (hinterval : loop.interval = table.interval)
    (hstopping : loop.stopping = stop?.isSome) (hdue : table.answeredAt n metric ≤ time)
    (hsound : table.SoundBefore n metric) (hanswer : (table.answer metric n).sample ≠ .crash)
    (hstop : ∀ p, stop? = some p → table.tickStart n ≤ p ∧ p ≤ table.tickEnd n) :
    table.Follows stop? time
      (loop.next table.source metric (table.answeredAt n metric) (.during n metric)).1
      (loop.next table.source metric (table.answeredAt n metric) (.during n metric)).2 := by
  cases metric with
  | used =>
    have heq : table.answeredAt n .used = table.askedAt n .max := rfl
    rw [heq] at hdue ⊢
    exact Follows.ask hinterval hstopping hdue rfl rfl (hsound.next hanswer rfl) hstop
  | max =>
    have heq : table.answeredAt n .max = table.askedAt n .committed := by
      simp only [answeredAt, askedAt, lead]
      omega
    rw [heq] at hdue ⊢
    exact Follows.ask hinterval hstopping hdue rfl rfl (hsound.next hanswer rfl) hstop
  | committed =>
    have hall : ∀ k ≤ n, table.Sound k := hsound.sound hanswer
    refine ⟨hinterval, hstopping, ?_⟩
    simp only [Loop.next, Loop.endTick, hstopping, hinterval]
    cases stop? with
    | none => exact .pausing n hdue hall rfl
    | some p =>
      -- the request to stop came during this tick, so the loop ends with it
      obtain ⟨hbegun, hle⟩ := hstop p rfl
      have hend : table.answeredAt n .committed = max p (table.tickEnd n) :=
        (Nat.max_eq_right hle).symm
      have hlast : table.LastTick p n :=
        ⟨hbegun, Nat.lt_of_le_of_lt hle (table.tickEnd_lt_tickStart_succ n)⟩
      rw [Option.isSome_some, if_pos rfl, hend]
      exact .finished p n (hend ▸ hdue) hall rfl hlast

/-- **An event** leaves a loop on its timetable. -/
theorem Follows.fire (h : table.Follows stop? time loop counts) {due : Nat}
    (hdue : loop.due? = some due) (hle : due ≤ time) :
    table.Follows stop? time (loop.fire table.source counts).1
      (loop.fire table.source counts).2 := by
  obtain ⟨interval, activity, stopping, series⟩ := loop
  obtain ⟨hinterval, hstopping, hplace⟩ := h
  cases hplace with
  | ready started stopped =>
    refine Follows.ask (n := 0) hinterval hstopping started rfl rfl ⟨?_, ?_⟩ fun p hp => ?_
    · exact fun k hk => absurd hk (Nat.not_lt_zero k)
    · exact fun metric hlt => absurd hlt (Nat.not_lt_zero _)
    · rw [stopped p hp]
      exact ⟨Nat.le_refl _, table.tickStart_le_tickEnd 0⟩
  | fetching n metric asked sound stopped =>
    obtain rfl : table.answeredAt n metric = due := Option.some.inj hdue
    cases hsample : (table.answer metric n).sample with
    | value x =>
      exact Follows.next hinterval hstopping hle sound (by rw [hsample]; nofun) stopped
    | missing =>
      exact Follows.next hinterval hstopping hle sound (by rw [hsample]; nofun) stopped
    | crash =>
      exact ⟨hinterval, hstopping,
        .crashed n metric hle ⟨sound, hsample⟩ fun p hp => (stopped p hp).1⟩
  | pausing n ended sound running =>
    obtain rfl : table.tickStart (n + 1) = due := Option.some.inj hdue
    refine Follows.ask (n := n + 1) hinterval hstopping hle rfl rfl (.succ sound) fun p hp => ?_
    rw [running] at hp
    cases hp
  | finished => cases hdue
  | crashed => cases hdue

/-- **A loop stays on its timetable** until any time. -/
theorem Follows.advance (h : table.Follows stop? time loop counts) (hlimit : time ≤ limit) :
    table.Follows stop? limit (loop.advance table.source limit counts).1
      (loop.advance table.source limit counts).2 :=
  Loop.advance_keeps (Q := fun loop counts => table.Follows stop? limit loop counts)
    (fun _ _ _ hdue hle h => h.fire hdue hle) loop counts (h.mono hlimit)

/-- A loop that is asked to stop when it has done all that was due stays on its timetable, up to
the end of its last tick. -/
theorem Follows.stop (h : table.Follows none time loop counts) (hcaught : loop.CaughtUp time) :
    table.Follows (some time) time (loop.stop time) counts := by
  obtain ⟨interval, activity, stopping, series⟩ := loop
  obtain ⟨hinterval, -, hplace⟩ := h
  cases hplace with
  | ready started _ =>
    have htime : time = table.start := by
      obtain hlt | heq := hcaught table.start rfl
      · omega
      · exact (Activity.ready.inj heq).symm
    refine ⟨hinterval, rfl, .ready started fun p hp => ?_⟩
    exact (Option.some.inj hp).symm.trans htime
  | fetching n metric asked sound _ =>
    refine ⟨hinterval, rfl, .fetching n metric asked sound fun p hp => ?_⟩
    obtain rfl := Option.some.inj hp
    have hdue : time < table.answeredAt n metric := by
      obtain hlt | heq := hcaught _ rfl
      · exact hlt
      · cases heq
    have hend := table.answeredAt_le_tickEnd n metric
    exact ⟨Nat.le_trans (table.tickStart_le_askedAt n metric) asked, by omega⟩
  | pausing n ended sound _ =>
    have hdue : time < table.tickStart (n + 1) := by
      obtain hlt | heq := hcaught _ rfl
      · exact hlt
      · cases heq
    have hlast : table.LastTick time n := ⟨Nat.le_trans (table.tickStart_le_tickEnd n) ended, hdue⟩
    have hmax : max time (table.tickEnd n) = time := Nat.max_eq_left ended
    have hplace := At.finished time n (Nat.le_of_eq hmax) sound rfl hlast
    rw [hmax] at hplace
    exact ⟨hinterval, rfl, hplace⟩
  | finished _ _ _ _ stopped _ => cases stopped
  | crashed n metric answered crash _ =>
    refine ⟨hinterval, rfl, .crashed n metric answered crash fun p hp => ?_⟩
    obtain rfl := Option.some.inj hp
    exact Nat.le_trans (table.tickStart_le_answeredAt n metric) answered

/-- How many requests for a metric there can be before and in the last tick. -/
theorem Follows.get_le {p n : Nat} (h : table.Follows (some p) time loop counts)
    (hlast : table.LastTick p n) (metric : Metric) : counts.get metric ≤ n + 1 := by
  obtain ⟨interval, activity, stopping, series⟩ := loop
  obtain ⟨-, -, hplace⟩ := h
  have hle : ∀ k metric', table.tickStart k ≤ p → (Counts.during k metric').get metric ≤ n + 1 :=
    fun k metric' hk =>
      Nat.le_trans (Counts.get_during_le k metric' metric) (Nat.succ_le_succ (hlast.le hk))
  cases hplace with
  | ready => cases metric <;> exact Nat.zero_le _
  | fetching k metric' _ _ stopped => exact hle k metric' (stopped p rfl).1
  | pausing _ _ _ running => cases running
  | finished p' k _ _ stopped last =>
    obtain rfl := Option.some.inj stopped
    exact hle k .committed last.1
  | crashed k metric' _ _ stopped => exact hle k metric' (stopped p rfl)

end Timetable

end QueueDrain.Heap
