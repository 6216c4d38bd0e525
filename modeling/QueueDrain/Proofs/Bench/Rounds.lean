import QueueDrain.Bench.Session

/-!
The rounds of a wait.

A wait looks for a drained report, pauses and looks again, with no bound on the number of rounds.
`Polls` says that the rounds come to an end: it goes from look to look, up to the one that ends the
wait.  Rounds that do are all there is to the wait (`wait_eq_of_polls`), and they do wherever the
clock moves on during a pause (`Clocked.wait_polls`).  So what a wait does is shown by induction on
its rounds.
-/

namespace QueueDrain

variable {S T α β : Type}

/-! ### Times -/

theorem Duration.ofMillis_lt (a b : Nat) : ofMillis a < ofMillis b ↔ a < b := by
  show a * 1000000 < b * 1000000 ↔ a < b
  omega

@[simp] theorem Duration.ofMillis_inj (a b : Nat) : ofMillis a = ofMillis b ↔ a = b := by
  rw [ofMillis, ofMillis, Duration.mk.injEq]
  omega

theorem Duration.since_ofMillis (now started : Nat) :
    (Duration.ofMillis now).since (.ofMillis started) = .ofMillis (now - started) := by
  rw [since, ofMillis, ofMillis, ofMillis, Nat.sub_mul]

namespace Bench

/-! ### Actions on states -/

theorem bind_apply (x : StateM S α) (k : α → StateM S β) (s : S) :
    (x >>= k) s = k (x s).1 (x s).2 := rfl

theorem pure_apply (a : α) (s : S) : (pure a : StateM S α) s = (a, s) := rfl

/-- A loop whose body is an action on states, one pass at a time. -/
theorem repeatM_apply [Nonempty β] (body : α → StateM S (α ⊕ β)) (a : α) (s : S) :
    repeatM body a s =
      match body a s with
      | (.inl a, s) => repeatM body a s
      | (.inr b, s) => (b, s) := by
  have : Nonempty S := ⟨s⟩
  rw [repeatM_eq_of_monadTail, repeatM.body, bind_apply]
  rcases body a s with ⟨_ | b, s'⟩
  · rfl
  · rfl

variable (bench : Bench (StateM S))

theorem look_apply (started : Duration) (timeoutMs : Nat) (s : S) :
    bench.look started timeoutMs s =
      match bench.report s with
      | (.error e, s) => (some (.error e), s)
      | (.ok report, s) =>
        if report.isDrained then (some (.ok report), s)
        else if Duration.ofMillis timeoutMs < (bench.now s).1.since started then
          (some (.error (.pollTimeout ((bench.now s).1.since started))), (bench.now s).2)
        else (none, (bench.now s).2) := by
  rw [look, bind_apply]
  rcases bench.report s with ⟨_ | report, s'⟩
  · rfl
  · dsimp only
    by_cases hd : report.isDrained
    · rw [if_pos hd, if_pos hd, pure_apply]
    · rw [if_neg hd, if_neg hd, bind_apply]
      by_cases hlt : Duration.ofMillis timeoutMs < (bench.now s').1.since started
      · rw [if_pos hlt, if_pos hlt, pure_apply]
      · rw [if_neg hlt, if_neg hlt, pure_apply]

theorem round_apply (started : Duration) (intervalMs timeoutMs : Nat) (s : S) :
    bench.round started intervalMs timeoutMs s =
      match bench.look started timeoutMs s with
      | (some outcome, s) => (.inr outcome, s)
      | (none, s) => (.inl (), (bench.sleep intervalMs s).2) := by
  rw [round, bind_apply]
  rcases bench.look started timeoutMs s with ⟨_ | outcome, s'⟩
  · rfl
  · rfl

/-! ### Rounds -/

/-- The rounds of a wait that began at some time: from a state on they come to an end, with this
outcome and in this state. -/
inductive Polls (started : Duration) (intervalMs timeoutMs : Nat) :
    S → Except Error Report → S → Prop where
  | found {s s' : S} {outcome : Except Error Report}
    (look : bench.look started timeoutMs s = (some outcome, s')) :
    Polls started intervalMs timeoutMs s outcome s'
  | again {s s₁ s' : S} {outcome : Except Error Report}
    (look : bench.look started timeoutMs s = (none, s₁))
    (rest : Polls started intervalMs timeoutMs (bench.sleep intervalMs s₁).2 outcome s') :
    Polls started intervalMs timeoutMs s outcome s'

variable {bench} {started : Duration} {intervalMs timeoutMs : Nat}

theorem Polls.repeatM_eq {s s' : S} {outcome : Except Error Report}
    (h : bench.Polls started intervalMs timeoutMs s outcome s') :
    repeatM (fun _ : Unit => bench.round started intervalMs timeoutMs) () s = (outcome, s') := by
  induction h with
  | found look => rw [repeatM_apply, round_apply, look]
  | again look rest ih =>
    rw [repeatM_apply, round_apply, look]
    exact ih

/-- **A wait is its rounds**, if they come to an end. -/
theorem wait_eq_of_polls {s s' : S} {outcome : Except Error Report}
    (h : bench.Polls (bench.now s).1 intervalMs timeoutMs (bench.now s).2 outcome s') :
    bench.wait intervalMs timeoutMs s = (outcome, s') :=
  h.repeatM_eq

/-! ### Clocks -/

/-- Surroundings with a clock: the time, in milliseconds, is a matter of the state; it never goes
back during a wait, and a pause takes as long as it is meant to, or longer. -/
structure Clocked (bench : Bench (StateM S)) (time : S → Nat) : Prop where
  now (s : S) : (bench.now s).1 = .ofMillis (time s)
  le_now (s : S) : time s ≤ time (bench.now s).2
  le_report (s : S) : time s ≤ time (bench.report s).2
  le_sleep (ms : Nat) (s : S) : time s + ms ≤ time (bench.sleep ms s).2

namespace Clocked

variable {time : S → Nat}

/-- After a look that does not end the wait, the time is not up. -/
theorem of_look_eq_none (h : Clocked bench time) {startMs : Nat} {s s₁ : S}
    (hlook : bench.look (.ofMillis startMs) timeoutMs s = (none, s₁)) :
    time s ≤ startMs + timeoutMs ∧ time s ≤ time s₁ := by
  have hle := h.le_report s
  rw [look_apply] at hlook
  rcases hreport : bench.report s with ⟨e | report, s₂⟩
  · rw [hreport] at hlook
    cases hlook
  · rw [hreport] at hlook hle
    dsimp only at hlook hle
    by_cases hd : report.isDrained
    · rw [if_pos hd] at hlook
      cases hlook
    · rw [if_neg hd, h.now, Duration.since_ofMillis] at hlook
      by_cases hlt : timeoutMs < time s₂ - startMs
      · rw [if_pos ((Duration.ofMillis_lt _ _).mpr hlt)] at hlook
        cases hlook
      · rw [if_neg fun hlate => hlt ((Duration.ofMillis_lt _ _).mp hlate)] at hlook
        cases hlook
        exact ⟨by omega, Nat.le_trans hle (h.le_now s₂)⟩

/-- **The rounds of a wait come to an end**, since each pause brings the timeout nearer. -/
theorem exists_polls (h : Clocked bench time) (hpos : 0 < intervalMs) (startMs timeoutMs : Nat)
    (s : S) : ∃ outcome s', bench.Polls (.ofMillis startMs) intervalMs timeoutMs s outcome s' := by
  -- by induction on the time that is left
  induction hleft : startMs + timeoutMs + 1 - time s using Nat.strongRecOn
    generalizing s with
  | _ left ih =>
    rcases hlook : bench.look (.ofMillis startMs) timeoutMs s with ⟨_ | outcome, s₁⟩
    · obtain ⟨hle, hle₁⟩ := h.of_look_eq_none hlook
      have hsleep := h.le_sleep intervalMs s₁
      obtain ⟨outcome, s', hrest⟩ := ih _ (by omega) (bench.sleep intervalMs s₁).2 rfl
      exact ⟨outcome, s', .again hlook hrest⟩
    · exact ⟨outcome, s₁, .found hlook⟩

/-- **A wait comes to an end**, by its rounds. -/
theorem wait_polls (h : Clocked bench time) (hpos : 0 < intervalMs) (timeoutMs : Nat) (s : S) :
    bench.Polls (bench.now s).1 intervalMs timeoutMs (bench.now s).2
      (bench.wait intervalMs timeoutMs s).1 (bench.wait intervalMs timeoutMs s).2 := by
  rw [h.now]
  obtain ⟨outcome, s', hpolls⟩ := h.exists_polls hpos (time s) timeoutMs (bench.now s).2
  rw [wait_eq_of_polls ((h.now s).symm ▸ hpolls)]
  exact hpolls

/-- The clock of a part of larger surroundings is a clock of these. -/
theorem lift (h : Clocked bench time) {f : {α : Type} → StateM S α → StateM T α} (part : T → S)
    (hf : ∀ {α : Type} (x : StateM S α) (t : T),
      (f x t).1 = (x (part t)).1 ∧ part (f x t).2 = (x (part t)).2) :
    Clocked (bench.lift f) fun t => time (part t) where
  now t := ((hf bench.now t).1).trans (h.now (part t))
  le_now t := (hf bench.now t).2.symm ▸ h.le_now (part t)
  le_report t := (hf bench.report t).2.symm ▸ h.le_report (part t)
  le_sleep ms t := (hf (bench.sleep ms) t).2.symm ▸ h.le_sleep ms (part t)

end Clocked

end Bench

/-- The clock of a session moves on as long as its owner waits, and never else. -/
theorem Session.bench_clocked {σ : Type} (target : Target σ) (refusal : Nat → Option String) :
    (Session.bench target refusal).Clocked Session.clock where
  now _ := rfl
  le_now _ := Nat.le_refl _
  le_report s := Nat.le_add_right s.clock _
  le_sleep _ _ := Nat.le_refl _

end QueueDrain
