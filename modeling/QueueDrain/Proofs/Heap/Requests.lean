import Mathlib.Data.List.Induction
import QueueDrain.Proofs.Bench.Erasure
import QueueDrain.Proofs.Heap.Lifecycle

/-!
What a sampler asks for, and what it keeps of the answers.

The requests of a sampling loop are told one from the other (`Timetable.request`): the metrics of a
tick are asked for in turn, each when the answer to the one before is there, and the next tick
begins a pause after the last answer.  A recorder (`Timetable.recorder`) gives the answers of a
timetable and keeps a list of the requests.

* `Timetable.request_eq`: the closed form of the requests;
* `Records.fire`: with the recorder, a loop that is on its timetable makes the next request of the
  timetable, and at its time;
* `Gathers.fire`: its samples are the values of the answers that it has got;
* `Recorded.advance`: both until any time.

Design notes: an answer is fixed when it is asked for and is kept when it arrives.  So the samples
together with the one that is on its way (`Loop.awaited`) are told by the requests alone, and it is
of no account to them where the loop is in its tick.
-/

namespace QueueDrain.Heap

/-- The samples of a metric. -/
def Series.get (series : Series) : Metric → List Binary64
  | .used => series.used
  | .max => series.max
  | .committed => series.committed

theorem Series.get_push (series : Series) (metric metric' : Metric) (x : Binary64) :
    (series.push metric x).get metric' =
      series.get metric' ++ if metric = metric' then [x] else [] := by
  cases metric <;> cases metric' <;> simp [push, get]

/-- The value that an answer brings, if it brings one. -/
def Sample.value? : Sample → Option Binary64
  | .value x => some x
  | _ => none

/-- The value that a loop waits for, if its next answer brings one for this metric. -/
def Loop.awaited (loop : Loop) (metric : Metric) : List Binary64 :=
  match loop.activity with
  | .fetching metric' sample _ => if metric' = metric then sample.value?.toList else []
  | _ => []

/-- A request for a metric. -/
structure Request where
  metric : Metric
  time : Nat
deriving DecidableEq

/-! ### Counts of requests -/

/-- How often a metric is asked for in a list of requests. -/
def countOf (metric : Metric) (log : List Request) : Nat := log.countP (·.metric = metric)

/-- How often each metric is asked for. -/
def countsOf (log : List Request) : Counts where
  used := countOf .used log
  max := countOf .max log
  committed := countOf .committed log

theorem countOf_concat (metric : Metric) (log : List Request) (request : Request) :
    countOf metric (log ++ [request]) =
      countOf metric log + if request.metric = metric then 1 else 0 := by
  rw [countOf, List.countP_append, List.countP_singleton]
  simp [countOf]

theorem get_countsOf (metric : Metric) (log : List Request) :
    (countsOf log).get metric = countOf metric log := by
  cases metric <;> rfl

theorem countsOf_concat (log : List Request) (request : Request) :
    countsOf (log ++ [request]) = (countsOf log).add request.metric := by
  obtain ⟨metric, time⟩ := request
  cases metric <;> simp [countsOf, countOf_concat, Counts.add]

theorem length_eq_countOf (log : List Request) :
    log.length = countOf .used log + countOf .max log + countOf .committed log := by
  induction log using List.reverseRecOn with
  | nil => rfl
  | append_singleton log request ih =>
    obtain ⟨metric, time⟩ := request
    rw [List.length_append, ih, countOf_concat, countOf_concat, countOf_concat]
    cases metric <;> simp <;> omega

namespace Timetable

variable (table : Timetable)

/-! ### The requests of a timetable -/

/-- The requests one after the other, counted from zero.  Each three of them are a tick, so the
`k`-th one is the request number `k / 3` for its metric. -/
def request : Nat → Request
  | 0 => ⟨.used, table.start⟩
  | k + 1 =>
    let before := request k
    let answered := before.time + (table.answer before.metric (k / 3)).delayMs
    match before.metric with
    | .used => ⟨.max, answered⟩
    | .max => ⟨.committed, answered⟩
    | .committed => ⟨.used, answered + table.interval⟩

/-- The answer to a request. -/
def answerTo (k : Nat) : SampleReply := table.answer (table.request k).metric (k / 3)

/-- When the answer to a request is there. -/
def answeredTo (k : Nat) : Nat := (table.request k).time + (table.answerTo k).delayMs

/-- The first requests. -/
def requests (count : Nat) : List Request := (List.range count).map table.request

/-- The values of the first answers for a metric; the others bring none. -/
def values (metric : Metric) (count : Nat) : List Binary64 :=
  (List.range count).filterMap fun n => (table.answer metric n).sample.value?

theorem requests_succ (count : Nat) :
    table.requests (count + 1) = table.requests count ++ [table.request count] := by
  rw [requests, List.range_succ, List.map_append]
  rfl

theorem length_requests (count : Nat) : (table.requests count).length = count := by
  rw [requests, List.length_map, List.length_range]

theorem values_succ (metric : Metric) (count : Nat) :
    table.values metric (count + 1) =
      table.values metric count ++ (table.answer metric count).sample.value?.toList := by
  rw [values, List.range_succ, List.filterMap_append, values]
  cases hvalue : (table.answer metric count).sample.value? <;> simp [hvalue]

/-- No request is made before the answer to the one before is there. -/
theorem answeredTo_le_time (k : Nat) : table.answeredTo k ≤ (table.request (k + 1)).time := by
  rw [request, answeredTo, answerTo]
  cases (table.request k).metric with
  | used => exact Nat.le_refl _
  | max => exact Nat.le_refl _
  | committed => exact Nat.le_add_right _ _

theorem time_monotone : Monotone fun k => (table.request k).time :=
  monotone_nat_of_le_succ fun k => Nat.le_trans (Nat.le_add_right _ _) (table.answeredTo_le_time k)

variable {table}

/-- **The closed form of the requests**: tick by tick, and within a tick metric by metric. -/
theorem request_eq (hinterval : 0 < table.interval) (n : Nat) (metric : Metric) :
    table.request (3 * n + metric.place) = ⟨metric, table.askedAt n metric⟩ := by
  have hmax : ∀ n, table.request (3 * n) = ⟨.used, table.askedAt n .used⟩ →
      table.request (3 * n + 1) = ⟨.max, table.askedAt n .max⟩ := by
    intro n hused
    have htick : 3 * n / 3 = n := by omega
    rw [request, hused]
    dsimp only
    rw [htick]
    rfl
  have hcommitted : ∀ n, table.request (3 * n + 1) = ⟨.max, table.askedAt n .max⟩ →
      table.request (3 * n + 2) = ⟨.committed, table.askedAt n .committed⟩ := by
    intro n hmax
    have htick : (3 * n + 1) / 3 = n := by omega
    rw [request, hmax]
    dsimp only
    rw [htick]
    simp only [askedAt, lead, Nat.add_assoc]
  have hused : ∀ n, table.request (3 * n) = ⟨.used, table.askedAt n .used⟩ := by
    intro n
    induction n with
    | zero => rfl
    | succ n ih =>
      have htick : (3 * n + 2) / 3 = n := by omega
      have hpause : max 1 table.interval = table.interval := Nat.max_eq_right hinterval
      rw [Nat.mul_succ, request, hcommitted n (hmax n ih)]
      dsimp only
      rw [htick]
      simp only [askedAt, lead, tickStart, hpause, Nat.add_zero]
  cases metric with
  | used => exact hused n
  | max => exact hmax n (hused n)
  | committed => exact hcommitted n (hmax n (hused n))

/-- The answers to the requests of a tick are those of the timetable. -/
theorem answerTo_eq (hinterval : 0 < table.interval) (n : Nat) (metric : Metric) :
    table.answerTo (3 * n + metric.place) = table.answer metric n := by
  have htick : (3 * n + metric.place) / 3 = n := by
    cases metric <;> simp only [Metric.place] <;> omega
  rw [answerTo, request_eq hinterval, htick]

theorem answeredTo_eq (hinterval : 0 < table.interval) (n : Nat) (metric : Metric) :
    table.answeredTo (3 * n + metric.place) = table.answeredAt n metric := by
  rw [answeredTo, answerTo_eq hinterval, request_eq hinterval]
  rfl

/-! ### Records of requests -/

/-- The source that gives the answers of a timetable and keeps a list of all requests. -/
def recorder (table : Timetable) : Source (List Request) := fun metric time log =>
  (table.answer metric (countOf metric log), log ++ [⟨metric, time⟩])

/-- To a sampler, the recorder is the source of the timetable. -/
theorem recorder_refines (table : Timetable) :
    SourceRefines countsOf table.recorder table.source := by
  intro metric time log
  show (table.answer metric ((countsOf log).get metric), (countsOf log).add metric) = _
  rw [get_countsOf, ← countsOf_concat log ⟨metric, time⟩]
  rfl

/-- A list of requests that is a start of those of the timetable. -/
def Records (table : Timetable) (log : List Request) : Prop := log = table.requests log.length

variable {stop? : Option Nat} {time limit : Nat} {loop : Loop} {log : List Request}

/-- The number of requests once a metric has been asked for in a tick. -/
theorem length_of_during {n : Nat} {metric : Metric} (h : countsOf log = .during n metric) :
    log.length = 3 * n + metric.place + 1 := by
  have hused : countOf .used log = (Counts.during n metric).used := congrArg Counts.used h
  have hmax : countOf .max log = (Counts.during n metric).max := congrArg Counts.max h
  have hcommitted : countOf .committed log = (Counts.during n metric).committed :=
    congrArg Counts.committed h
  rw [length_eq_countOf, hused, hmax, hcommitted]
  cases metric <;> simp only [Counts.during, Metric.place] <;> omega

/-- A loop on its timetable that asks for a metric makes the next request of the timetable. -/
theorem Records.ask (hinterval : 0 < table.interval) (h : table.Records log) {metric : Metric}
    {due : Nat}
    (hfollows : table.Follows stop? time (loop.ask table.recorder metric due log).1
      (countsOf (loop.ask table.recorder metric due log).2)) :
    table.Records (loop.ask table.recorder metric due log).2 := by
  obtain ⟨-, -, hplace⟩ := hfollows
  simp only [Loop.ask, recorder] at hplace ⊢
  generalize hd : due + (table.answer metric (countOf metric log)).delayMs = answered at hplace
  generalize hs : (table.answer metric (countOf metric log)).sample = sample at hplace
  generalize hc : countsOf (log ++ [⟨metric, due⟩]) = counts at hplace
  cases hplace with
  | fetching n _ _ _ _ =>
    have hlength := length_of_during hc
    rw [List.length_append, List.length_singleton, Nat.add_right_cancel_iff] at hlength
    -- it is the n-th request for the metric, so its answer tells when it was made
    have hcount : countOf metric log = n := by
      have hget := congrArg (Counts.get · metric) hc
      simp only [get_countsOf, countOf_concat, if_true] at hget
      cases metric <;> simp only [Counts.during, Counts.get] at hget <;> omega
    have htime : due = table.askedAt n metric := by
      rw [hcount] at hd
      exact Nat.add_right_cancel hd
    have hrequest : table.request log.length = ⟨metric, due⟩ := by
      rw [hlength, request_eq hinterval, htime]
    rw [Records, List.length_append, List.length_singleton, requests_succ, hrequest, ← h]

theorem Records.fire (hinterval : 0 < table.interval) (h : table.Records log)
    (hfollows : table.Follows stop? time loop (countsOf log)) {due : Nat}
    (hdue : loop.due? = some due) (hle : due ≤ time) :
    table.Records (loop.fire table.recorder log).2 := by
  have hnext := hfollows.fire hdue hle
  rw [Loop.fire_map (recorder_refines table)] at hnext
  obtain ⟨metric, series, heq⟩ | ⟨heq, -⟩ := Loop.fire_cases table.recorder hdue log
  · rw [heq] at hnext ⊢
    exact h.ask hinterval hnext
  · rw [heq]
    exact h

/-! ### Samples -/

/-- Samples that are the values of all answers to the requests. -/
def Holds (table : Timetable) (series : Series) (log : List Request) : Prop :=
  ∀ metric, series.get metric = table.values metric (countOf metric log)

/-- A loop whose samples, with the one that is on its way, are the values of all answers. -/
def Gathers (table : Timetable) (loop : Loop) (log : List Request) : Prop :=
  ∀ metric, loop.series.get metric ++ loop.awaited metric =
    table.values metric (countOf metric log)

theorem gathers_ask (h : table.Holds loop.series log) (metric : Metric) (time : Nat) :
    table.Gathers (loop.ask table.recorder metric time log).1
      (loop.ask table.recorder metric time log).2 := by
  intro metric'
  simp only [Loop.ask, recorder, Loop.awaited, countOf_concat]
  by_cases heq : metric = metric'
  · obtain rfl := heq
    rw [if_pos rfl, if_pos rfl, values_succ, h metric]
  · rw [if_neg heq, if_neg heq, List.append_nil, Nat.add_zero, h metric']

theorem gathers_next (loop : Loop) (h : table.Holds loop.series log) (metric : Metric)
    (time : Nat) :
    table.Gathers (loop.next table.recorder metric time log).1
      (loop.next table.recorder metric time log).2 := by
  cases metric with
  | used => exact gathers_ask h .max time
  | max => exact gathers_ask h .committed time
  | committed =>
    intro metric'
    have hnone : (loop.endTick time).awaited metric' = [] := by
      cases hstop : loop.stopping <;> simp [Loop.endTick, Loop.awaited, hstop]
    simp only [Loop.next, hnone, List.append_nil]
    exact h metric'

/-- Samples that nothing is to be added to. -/
theorem Gathers.holds (h : table.Gathers loop log) (hawaited : ∀ metric, loop.awaited metric = []) :
    table.Holds loop.series log := by
  intro metric
  rw [← h metric, hawaited metric, List.append_nil]

/-- **An event keeps what has been gathered**: it keeps the value that arrives, or it asks for one
more. -/
theorem Gathers.fire (h : table.Gathers loop log) :
    table.Gathers (loop.fire table.recorder log).1 (loop.fire table.recorder log).2 := by
  obtain ⟨interval, activity, stopping, series⟩ := loop
  cases activity with
  | ready due => exact gathers_ask (h.holds fun _ => rfl) .used due
  | pausing due => exact gathers_ask (h.holds fun _ => rfl) .used due
  | fetching metric sample due =>
    cases sample with
    | value x =>
      have hholds : table.Holds (series.push metric x) log := by
        intro metric'
        rw [Series.get_push, ← h metric']
        rfl
      exact gathers_next ⟨interval, .fetching metric (.value x) due, stopping,
        series.push metric x⟩ hholds metric due
    | missing =>
      have hnone : ∀ metric', Loop.awaited
          ⟨interval, .fetching metric .missing due, stopping, series⟩ metric' = [] := by
        intro metric'
        simp [Loop.awaited, Sample.value?]
      exact gathers_next _ (h.holds hnone) metric due
    | crash =>
      have hnone : ∀ metric', Loop.awaited
          ⟨interval, .fetching metric .crash due, stopping, series⟩ metric' = [] := by
        intro metric'
        simp [Loop.awaited, Sample.value?]
      have hholds : table.Holds series log := h.holds hnone
      intro metric'
      simp only [Loop.fire, Loop.awaited, List.append_nil]
      exact hholds metric'
  | finished | crashed | aborted => exact h

theorem Gathers.stop (h : table.Gathers loop log) (time : Nat) :
    table.Gathers (loop.stop time) log := by
  obtain ⟨interval, activity, stopping, series⟩ := loop
  cases activity <;> exact h

/-! ### Both -/

/-- A loop on its timetable at some time, with its requests and its samples. -/
structure Recorded (table : Timetable) (stop? : Option Nat) (time : Nat) (loop : Loop)
    (log : List Request) : Prop where
  follows : table.Follows stop? time loop (countsOf log)
  records : table.Records log
  gathers : table.Gathers loop log

theorem Recorded.fire (hinterval : 0 < table.interval) (h : table.Recorded stop? time loop log)
    {due : Nat} (hdue : loop.due? = some due) (hle : due ≤ time) :
    table.Recorded stop? time (loop.fire table.recorder log).1
      (loop.fire table.recorder log).2 := by
  have hnext := h.follows.fire hdue hle
  rw [Loop.fire_map (recorder_refines table)] at hnext
  exact ⟨hnext, h.records.fire hinterval h.follows hdue hle, h.gathers.fire⟩

/-- **Until any time a loop makes the requests of its timetable**, in order, and keeps their
values. -/
theorem Recorded.advance (hinterval : 0 < table.interval)
    (h : table.Recorded stop? time loop log) (hlimit : time ≤ limit) :
    table.Recorded stop? limit (loop.advance table.recorder limit log).1
      (loop.advance table.recorder limit log).2 :=
  Loop.advance_keeps (Q := table.Recorded stop? limit)
    (fun _ _ _ hdue hle h => h.fire hinterval hdue hle) loop log
    ⟨h.follows.mono hlimit, h.records, h.gathers⟩

end Timetable

end QueueDrain.Heap
