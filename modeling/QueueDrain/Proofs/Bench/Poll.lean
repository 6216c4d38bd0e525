import QueueDrain.Proofs.Bench.Coupling
import QueueDrain.Proofs.Bench.View

/-!
When a wait for the drained queue ends, and with what.

The fetches of a wait are counted from zero.  Each takes as long as the script says, and between two
of them there is a pause, so the n-th fetch starts at `fetchStart n` and its answer is there at
`fetchEnd n`.  `WaitEnds n` are the three ways to end with the n-th fetch, and `wait_ends` says that
a wait ends with the first fetch for which there is one.

Design notes: nothing bounds the number of fetches of a wait but its clock.  The answer to fetch
number `timeout / interval + 1` is late at last, and that ends the wait (`exists_waitEnds`).
-/

namespace QueueDrain

namespace Script

variable (script : Script) (intervalMs timeoutMs first : Nat)

/--
When the n-th fetch of a wait starts, counted from the start of the wait; `first` is the number of
the report that is fetched first.
-/
def fetchStart : Nat → Nat
  | 0 => 0
  | n + 1 => fetchStart n + (script.report (first + n)).delayMs + intervalMs

/-- When the answer to the n-th fetch is there. -/
def fetchEnd (n : Nat) : Nat :=
  script.fetchStart intervalMs first n + (script.report (first + n)).delayMs

/-- How a wait can end with its n-th fetch. -/
inductive WaitEnds (n : Nat) : Except Error Report → Prop where
  | failed {e : Error} (answer : (script.report (first + n)).outcome = .error e) :
    WaitEnds n (.error e)
  /-- A drained report ends the wait even if it is late. -/
  | drained {report : Report} (answer : (script.report (first + n)).outcome = .ok report)
    (drained : report.isDrained) : WaitEnds n (.ok report)
  | late {report : Report} (answer : (script.report (first + n)).outcome = .ok report)
    (undrained : ¬ report.isDrained) (late : timeoutMs < script.fetchEnd intervalMs first n) :
    WaitEnds n (.error (.pollTimeout (.ofMillis (script.fetchEnd intervalMs first n))))

variable {script intervalMs timeoutMs first}

theorem mul_le_fetchStart (n : Nat) : n * intervalMs ≤ script.fetchStart intervalMs first n := by
  induction n with
  | zero => simp
  | succ n ih =>
    rw [fetchStart, Nat.add_mul, Nat.one_mul]
    omega

theorem waitEnds_of_error {n : Nat} {e : Error}
    (answer : (script.report (first + n)).outcome = .error e) (outcome : Except Error Report) :
    script.WaitEnds intervalMs timeoutMs first n outcome ↔ outcome = .error e := by
  constructor
  · intro h
    cases h with
    | failed h => rw [← h, answer]
    | drained h => cases answer.symm.trans h
    | late h => cases answer.symm.trans h
  · rintro rfl
    exact .failed answer

theorem waitEnds_of_ok {n : Nat} {report : Report}
    (answer : (script.report (first + n)).outcome = .ok report) (outcome : Except Error Report) :
    script.WaitEnds intervalMs timeoutMs first n outcome ↔
      report.isDrained ∧ outcome = .ok report ∨
      ¬ report.isDrained ∧ timeoutMs < script.fetchEnd intervalMs first n ∧
        outcome = .error (.pollTimeout (.ofMillis (script.fetchEnd intervalMs first n))) := by
  constructor
  · intro h
    cases h with
    | failed h => cases answer.symm.trans h
    | drained h hd =>
      cases answer.symm.trans h
      exact Or.inl ⟨hd, rfl⟩
    | late h hd hlt =>
      cases answer.symm.trans h
      exact Or.inr ⟨hd, hlt, rfl⟩
  · rintro (⟨hd, rfl⟩ | ⟨hd, hlt, rfl⟩)
    · exact .drained answer hd
    · exact .late answer hd hlt

/-- When the time is up, a wait ends. -/
theorem exists_waitEnds {n : Nat} (h : timeoutMs < script.fetchEnd intervalMs first n) :
    ∃ outcome, script.WaitEnds intervalMs timeoutMs first n outcome := by
  rcases ho : (script.report (first + n)).outcome with e | report
  · exact ⟨_, .failed ho⟩
  · by_cases hd : report.isDrained
    · exact ⟨_, .drained ho hd⟩
    · exact ⟨_, .late ho hd h⟩

theorem fetchEnd_le {n : Nat}
    (h : ∀ outcome, ¬ script.WaitEnds intervalMs timeoutMs first n outcome) :
    script.fetchEnd intervalMs first n ≤ timeoutMs := by
  by_contra hlt
  obtain ⟨outcome, hends⟩ := exists_waitEnds (Nat.lt_of_not_le hlt)
  exact h outcome hends

end Script

/-! ### Looks -/

namespace Script

variable (script : Script) (refusal : Nat → Option String) (intervalMs timeoutMs : Nat) (v : View)

/-- The view of a session after n fetches of a wait that began at a view, and the pauses. -/
def polled (n : Nat) : View :=
  { v with
    clock := v.clock + script.fetchStart intervalMs v.control.report n
    control := { v.control with report := v.control.report + n }
    calls := v.calls ++ (List.range n).map fun i =>
      (v.clock + script.fetchStart intervalMs v.control.report i, Call.report) }

/-- The view of a session when the answer to the n-th fetch of a wait is there. -/
def answered (n : Nat) : View :=
  { script.polled intervalMs v (n + 1) with
    clock := v.clock + script.fetchEnd intervalMs v.control.report n }

variable {script intervalMs timeoutMs v}

theorem send_polled (n : Nat) :
    (script.polled intervalMs v n).send .report .report
        (script.report (v.control.report + n)).delayMs
      = script.answered intervalMs v n := by
  simp only [View.send, polled, answered, Position.add, fetchEnd, Nat.add_assoc, List.append_assoc,
    List.range_succ, List.map_append, List.map_cons, List.map_nil]

theorem view_report_polled {n : Nat} {s : Session Position}
    (hs : s.view = script.polled intervalMs v n) :
    (s.report script.target).2.view = script.answered intervalMs v n := by
  rw [Session.view_report, hs]
  exact send_polled n

/-- **A look** ends the wait in one of the ways to end with this fetch, or there is none. -/
theorem look_spec (timeoutMs : Nat) {n : Nat} {s : Session Position}
    (hs : s.view = script.polled intervalMs v n) :
    (∀ outcome,
      ((Session.bench script.target refusal).look (.ofMillis v.clock) timeoutMs s).1
          = some outcome ↔
        script.WaitEnds intervalMs timeoutMs v.control.report n outcome) ∧
      ((Session.bench script.target refusal).look (.ofMillis v.clock) timeoutMs s).2.view
        = script.answered intervalMs v n := by
  have hview := view_report_polled hs
  have hanswer : (s.report script.target).1
      = (script.report (v.control.report + n)).outcome := by
    rw [Session.report_outcome, hs]
    rfl
  have hclock : (s.report script.target).2.clock
      = v.clock + script.fetchEnd intervalMs v.control.report n := congrArg View.clock hview
  rw [Bench.look_apply]
  rcases hreport : s.report script.target with ⟨answer, s'⟩
  rw [hreport] at hview hanswer hclock
  rw [show (Session.bench script.target refusal).report s = (answer, s') from hreport]
  rcases answer with e | report
  · refine ⟨fun outcome => ?_, hview⟩
    rw [waitEnds_of_error hanswer.symm, Option.some.injEq, eq_comm]
  · dsimp only at hclock ⊢
    have helapsed : ((Session.bench script.target refusal).now s').1.since (.ofMillis v.clock)
        = .ofMillis (script.fetchEnd intervalMs v.control.report n) := by
      show (Duration.ofMillis s'.clock).since (.ofMillis v.clock) = _
      rw [Duration.since_ofMillis, hclock, Nat.add_sub_cancel_left]
    rw [helapsed]
    by_cases hd : report.isDrained
    · rw [if_pos hd]
      refine ⟨fun outcome => ?_, hview⟩
      rw [waitEnds_of_ok hanswer.symm, Option.some.injEq]
      simp [hd, eq_comm]
    · rw [if_neg hd]
      by_cases hlt : timeoutMs < script.fetchEnd intervalMs v.control.report n
      · rw [if_pos ((Duration.ofMillis_lt _ _).mpr hlt)]
        refine ⟨fun outcome => ?_, hview⟩
        rw [waitEnds_of_ok hanswer.symm, Option.some.injEq]
        simp [hd, hlt, eq_comm]
      · rw [if_neg fun h => hlt ((Duration.ofMillis_lt _ _).mp h)]
        refine ⟨fun outcome => ?_, hview⟩
        rw [waitEnds_of_ok hanswer.symm]
        simp [hd, hlt]

/-! ### Waits -/

theorem view_sleep_answered {n : Nat} {s : Session Position}
    (hs : s.view = script.answered intervalMs v n) :
    ((Session.bench script.target refusal).sleep intervalMs s).2.view
      = script.polled intervalMs v (n + 1) := by
  show (s.waitUntil script.target (s.clock + intervalMs)).view = _
  have hclock : s.clock = v.clock + script.fetchEnd intervalMs v.control.report n :=
    congrArg View.clock hs
  rw [Session.view_waitUntil, hs, hclock, Nat.add_assoc]
  rfl

/-- The rounds of a wait that has made n fetches end with the next fetch for which there is a way to
end. -/
theorem polls_spec {s s' : Session Position} {outcome : Except Error Report}
    (hpolls : (Session.bench script.target refusal).Polls (.ofMillis v.clock) intervalMs timeoutMs
      s outcome s') :
    ∀ {n : Nat}, s.view = script.polled intervalMs v n →
      ∃ last, n ≤ last ∧
        (∀ m, n ≤ m → m < last → ∀ outcome,
          ¬ script.WaitEnds intervalMs timeoutMs v.control.report m outcome) ∧
        script.WaitEnds intervalMs timeoutMs v.control.report last outcome ∧
        s'.view = script.answered intervalMs v last := by
  induction hpolls with
  | @found s s' outcome look =>
    intro n hs
    obtain ⟨hends, hview⟩ := look_spec refusal timeoutMs hs
    rw [look] at hends hview
    exact ⟨n, Nat.le_refl n, fun m hn hm => by omega, (hends outcome).mp rfl, hview⟩
  | @again s s₁ s' outcome look rest ih =>
    intro n hs
    obtain ⟨hends, hview⟩ := look_spec refusal timeoutMs hs
    rw [look] at hends hview
    -- whatever is found later is found after fetch n, which ends nothing
    obtain ⟨last, hle, hbefore, hend⟩ := ih (view_sleep_answered refusal hview)
    refine ⟨last, by omega, fun m hn hm outcome hm_ends => ?_, hend⟩
    rcases Nat.eq_or_lt_of_le hn with rfl | hlt
    · cases (hends outcome).mpr hm_ends
    · exact hbefore m hlt hm outcome hm_ends

/-- A wait is over when the answer to the first fetch is there for which there is a way to end. -/
theorem wait_spec (hpos : 0 < intervalMs) (timeoutMs : Nat) (s : Session Position) :
    ∃ last,
      (∀ n < last, ∀ outcome,
        ¬ script.WaitEnds intervalMs timeoutMs s.view.control.report n outcome) ∧
      script.WaitEnds intervalMs timeoutMs s.view.control.report last
        ((Session.bench script.target refusal).wait intervalMs timeoutMs s).1 ∧
      ((Session.bench script.target refusal).wait intervalMs timeoutMs s).2.view
        = script.answered intervalMs s.view last := by
  have hstart : s.view = script.polled intervalMs s.view 0 := by
    simp [polled, fetchStart]
  have hpolls := (Session.bench_clocked script.target refusal).wait_polls hpos timeoutMs s
  obtain ⟨last, -, hfirst, hend⟩ := polls_spec refusal (v := s.view) hpolls hstart
  exact ⟨last, fun n hn => hfirst n (Nat.zero_le n) hn, hend⟩

/-- What a wait does that ends with the fetch number `last`, between two states of a session. -/
structure Waits (script : Script) (intervalMs timeoutMs : Nat) (before : Session Position)
    (last : Nat) (outcome : Except Error Report) (after : Session Position) : Prop where
  /-- There is no earlier way to end. -/
  first : ∀ n < last, ∀ outcome,
    ¬ script.WaitEnds intervalMs timeoutMs before.target.report n outcome
  ends : script.WaitEnds intervalMs timeoutMs before.target.report last outcome
  calls : after.calls = before.calls ++ (List.range (last + 1)).map fun n =>
    (before.clock + script.fetchStart intervalMs before.target.report n, Call.report)
  /-- The wait is over when its last answer is there. -/
  clock : after.clock = before.clock + script.fetchEnd intervalMs before.target.report last
  count_le : last + 1 ≤ timeoutMs / intervalMs + 2
  /-- A wait that is given up has taken more than its time, but not much more. -/
  elapsed : ∀ report elapsedMs,
    (script.report (before.target.report + last)).outcome = .ok report →
    outcome = .error (.pollTimeout (.ofMillis elapsedMs)) →
      timeoutMs < elapsedMs ∧ (0 < last →
        elapsedMs ≤ timeoutMs + intervalMs
          + (script.report (before.target.report + last)).delayMs)

/-- A wait that has made a fetch without an end has had time for all the pauses before it. -/
theorem le_div_of_not_waitEnds {first n : Nat} (hpos : 0 < intervalMs)
    (h : ∀ outcome, ¬ script.WaitEnds intervalMs timeoutMs first n outcome) :
    n ≤ timeoutMs / intervalMs := by
  rw [Nat.le_div_iff_mul_le hpos]
  calc n * intervalMs ≤ script.fetchStart intervalMs first n := mul_le_fetchStart n
    _ ≤ script.fetchEnd intervalMs first n := Nat.le_add_right _ _
    _ ≤ timeoutMs := fetchEnd_le h

/-- **A wait ends with the first fetch for which there is a way to end.** -/
theorem wait_ends (script : Script) {intervalMs : Nat} (hpos : 0 < intervalMs) (timeoutMs : Nat)
    (s : Session Position) :
    ∃ last, script.Waits intervalMs timeoutMs s last
      ((Session.bench script.target refusal).wait intervalMs timeoutMs s).1
      ((Session.bench script.target refusal).wait intervalMs timeoutMs s).2 := by
  obtain ⟨last, hfirst, hends, hview⟩ := wait_spec refusal hpos timeoutMs s
  refine ⟨last, hfirst, hends, congrArg View.calls hview, congrArg View.clock hview, ?_, ?_⟩
  · rcases last with _ | last
    · exact Nat.succ_le_succ (Nat.zero_le _)
    · have hle := le_div_of_not_waitEnds hpos (hfirst last (Nat.lt_succ_self _))
      exact Nat.add_le_add_right hle 2
  · intro report elapsedMs hanswer houtcome
    rcases (waitEnds_of_ok hanswer _).mp hends with ⟨-, hok⟩ | ⟨-, hlt, hlate⟩
    · cases houtcome.symm.trans hok
    · obtain rfl : elapsedMs = script.fetchEnd intervalMs s.target.report last := by
        simpa using houtcome.symm.trans hlate
      refine ⟨hlt, fun hpositive => ?_⟩
      obtain ⟨n, rfl⟩ : ∃ n, last = n + 1 := ⟨last - 1, by omega⟩
      -- the fetch before this one was in time
      have hbefore := fetchEnd_le (hfirst n (Nat.lt_succ_self n))
      exact Nat.add_le_add_right (Nat.add_le_add_right hbefore intervalMs) _

/-- A script whose reports take 50 ms each and always show a job that waits. -/
def busy : Script where
  command _ _ := ⟨0, .ok ()⟩
  report _ := ⟨50, .ok ⟨[("pending", .ofNat 1)]⟩⟩
  metric _ _ := ⟨0, .missing⟩

/-- The rounds of a wait with a timeout of 1000 ms: the fourth answer, at 1100 ms, is the first one
that is late. -/
theorem exists_polls_busy : ∃ s',
    (Session.bench busy.target fun _ => none).Polls (.ofMillis 0) 300 1000 { target := {} }
      (.error (.pollTimeout (.ofMillis 1100))) s' :=
  ⟨_, .again rfl (.again rfl (.again rfl (.found rfl)))⟩

/-- The wait is given up when the fourth answer is there. -/
theorem wait_ends_busy :
    0 < 300 ∧
      ((Session.bench busy.target fun _ => none).wait 300 1000 { target := {} }).1
        = .error (.pollTimeout (.ofMillis 1100)) ∧
      ∃ last, busy.Waits 300 1000 { target := {} } last
        ((Session.bench busy.target fun _ => none).wait 300 1000 { target := {} }).1
        ((Session.bench busy.target fun _ => none).wait 300 1000 { target := {} }).2 := by
  obtain ⟨s', hpolls⟩ := exists_polls_busy
  have hwait : (Session.bench busy.target fun _ => none).wait 300 1000 { target := {} } = (_, s') :=
    Bench.wait_eq_of_polls hpolls
  exact ⟨by decide, congrArg Prod.fst hwait,
    wait_ends (fun _ => none) busy (by decide) 1000 { target := {} }⟩

end Script

end QueueDrain
