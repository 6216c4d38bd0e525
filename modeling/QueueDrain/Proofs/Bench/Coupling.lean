import Mathlib.Data.List.Forall2
import QueueDrain.Proofs.Bench.Rounds

/-!
Two benchmarks side by side.

`Coupled P x y Q` compares two actions on two kinds of states: started in states that are related by
`P`, they end with answers and states that are related by `Q`.  The parts of a benchmark are built
from a few actions on its surroundings, so a coupling of these actions is one of the parts:

* `drain_coupled`: two surroundings that are `Similar`, except that the clock of one is ahead of the
  other, have the same drains;
* `runFrom_coupled`: what one iteration keeps, a run of any number of iterations keeps;
* `runMatrix_coupled`: two surroundings that are `Twin`s have the same runs.

Design notes: a property of single states is the case of a coupling of a benchmark with itself
(`drain_keeps`, `runFrom_keeps`), so what is kept by runs needs no induction of its own.
-/

namespace QueueDrain

variable {S T α β γ δ : Type}

/-! ### Couplings -/

/-- Two actions, started in states related by `P`, end with answers and states related by `Q`. -/
def Coupled (P : S → T → Prop) (x : StateM S α) (y : StateM T β) (Q : α → β → S → T → Prop) :
    Prop :=
  ∀ s t, P s t → Q (x s).1 (y t).1 (x s).2 (y t).2

/-- Equal answers, in states that are related. -/
def Alike (R : S → T → Prop) (a b : α) (s : S) (t : T) : Prop := b = a ∧ R s t

namespace Coupled

variable {P : S → T → Prop} {R : S → T → Prop} {Q : α → β → S → T → Prop}
  {Q' : γ → δ → S → T → Prop} {x : StateM S α} {y : StateM T β} {k : α → StateM S γ}
  {l : β → StateM T δ}

theorem ret {a : α} {b : β} (h : ∀ s t, P s t → Q a b s t) :
    Coupled P (pure a : StateM S α) (pure b : StateM T β) Q := h

theorem bind (hx : Coupled P x y Q) (hk : ∀ a b, Coupled (Q a b) (k a) (l b) Q') :
    Coupled P (x >>= k) (y >>= l) Q' := by
  intro s t hst
  exact hk _ _ _ _ (hx s t hst)

/-- The rule for actions that end alike. -/
theorem bind_alike {y : StateM T α} {l : α → StateM T δ} (hx : Coupled P x y (Alike R))
    (hk : ∀ a, Coupled R (k a) (l a) Q') : Coupled P (x >>= k) (y >>= l) Q' := by
  refine hx.bind fun a b => ?_
  rintro s t ⟨rfl, hst⟩
  exact hk _ s t hst

/-- A condition that does not speak of the states can be taken out of a coupling. -/
theorem assuming {p : Prop} (h : p → Coupled R x y Q) : Coupled (fun s t => p ∧ R s t) x y Q := by
  rintro s t ⟨hp, hst⟩
  exact h hp s t hst

end Coupled

/-- Outcomes that are results related by `Q`, or the same error. -/
def Matching (Q : α → β → Prop) : Except Error α → Except Error β → Prop
  | .ok a, .ok b => Q a b
  | .error e, .error e' => e' = e
  | _, _ => False

theorem matching_map {Q : α → β → Prop} {Q' : γ → δ → Prop} {f : α → γ} {g : β → δ}
    {x : Except Error α} {y : Except Error β} (h : Matching Q x y)
    (hfg : ∀ a b, Q a b → Q' (f a) (g b)) : Matching Q' (x.map f) (y.map g) := by
  rcases x with e | a <;> rcases y with e' | b
  · exact h
  · exact h.elim
  · exact h.elim
  · exact hfg a b h

theorem matching_eq_iff {x y : Except Error α} : Matching Eq x y ↔ y = x := by
  rcases x with e | a <;> rcases y with e' | b <;> simp [Matching, eq_comm]

namespace Bench

/-! ### The parts of a benchmark -/

section

variable (bench : Bench (StateM S))

theorem drain_apply (plan : Plan) (iteration : Iteration) (s : S) :
    bench.drain plan iteration s =
      match bench.command (.seed iteration.items) s with
      | (.error e, s) => (.error e, s)
      | (.ok _, s) =>
        match bench.command (.dispatch iteration.mode) s with
        | (.error e, s) => (.error e, s)
        | (.ok _, s) => bench.wait plan.pollIntervalMs plan.timeoutMs s := by
  rw [drain, bind_apply]
  rcases bench.command (.seed iteration.items) s with ⟨_ | u, s'⟩
  · rfl
  · dsimp only
    rw [bind_apply]
    rcases bench.command (.dispatch iteration.mode) s' with ⟨_ | u, s''⟩
    · rfl
    · rfl

theorem runOnce_apply (plan : Plan) (iteration : Iteration) (s : S) :
    bench.runOnce plan iteration s =
      match bench.command .reset s with
      | (.error e, s) => (.error e, s)
      | (.ok _, s) =>
        match bench.sampled plan (bench.drain plan iteration) s with
        | ((outcome, memory), s) =>
          (outcome.map fun report =>
            { items := iteration.items
              mode := iteration.mode
              run := iteration.run
              report := report
              memory := memory }, s) := by
  rw [runOnce, bind_apply]
  rcases bench.command .reset s with ⟨_ | u, s'⟩
  · rfl
  · rfl

theorem runFrom_succ_apply (plan : Plan) (n k : Nat) {iteration : Iteration}
    (h : plan.iterationAt? k = some iteration) (s : S) :
    bench.runFrom plan (n + 1) k s =
      match bench.runOnce plan iteration (bench.announce k iteration s).2 with
      | (.error e, s) => (.error e, s)
      | (.ok result, s) =>
        match bench.record result s with
        | (.error e, s) => (.error e, s)
        | (.ok _, s) =>
          ((bench.runFrom plan n (k + 1) s).1.map (result :: ·),
            (bench.runFrom plan n (k + 1) s).2) := by
  rw [runFrom, h]
  dsimp only
  rw [bind_apply, bind_apply]
  rcases bench.runOnce plan iteration (bench.announce k iteration s).2 with ⟨_ | result, s'⟩
  · rfl
  · dsimp only
    rw [bind_apply]
    rcases bench.record result s' with ⟨_ | u, s''⟩
    · rfl
    · rfl

end

/-! ### Drains -/

/--
Surroundings in which a wait goes alike, seen from states that are related; the second clock is
ahead of the first one by `lead`.
-/
structure WaitsAlike (a : Bench (StateM S)) (b : Bench (StateM T)) (lead : Nat)
    (R : S → T → Prop) : Prop where
  now : Coupled R a.now b.now fun x y s t => y = ⟨x.nanos + lead⟩ ∧ R s t
  sleep (ms : Nat) : Coupled R (a.sleep ms) (b.sleep ms) (Alike R)
  report : Coupled R a.report b.report (Alike R)

/-- Surroundings in which all the work between two resets goes alike. -/
structure Similar (a : Bench (StateM S)) (b : Bench (StateM T)) (lead : Nat) (R : S → T → Prop) :
    Prop extends WaitsAlike a b lead R where
  command (c : Command) (hc : c ≠ .reset) : Coupled R (a.command c) (b.command c) (Alike R)

section

variable {a : Bench (StateM S)} {b : Bench (StateM T)} {lead : Nat} {R : S → T → Prop}
  {time : S → Nat}

theorem look_coupled (h : WaitsAlike a b lead R) (started : Duration) (timeoutMs : Nat) :
    Coupled R (a.look started timeoutMs) (b.look ⟨started.nanos + lead⟩ timeoutMs) (Alike R) := by
  refine h.report.bind_alike fun outcome => ?_
  rcases outcome with e | report
  · exact Coupled.ret fun _ _ hst => ⟨rfl, hst⟩
  · dsimp only
    by_cases hd : report.isDrained
    · rw [if_pos hd, if_pos hd]
      exact Coupled.ret fun _ _ hst => ⟨rfl, hst⟩
    · rw [if_neg hd, if_neg hd]
      refine h.now.bind fun x y => Coupled.assuming ?_
      rintro rfl
      -- both clocks were ahead by the same time when the wait began
      have hsince : Duration.since ⟨x.nanos + lead⟩ ⟨started.nanos + lead⟩ = x.since started := by
        simp only [Duration.since, Nat.add_sub_add_right]
      rw [hsince]
      by_cases hlt : Duration.ofMillis timeoutMs < x.since started
      · rw [if_pos hlt, if_pos hlt]
        exact Coupled.ret fun _ _ hst => ⟨rfl, hst⟩
      · rw [if_neg hlt, if_neg hlt]
        exact Coupled.ret fun _ _ hst => ⟨rfl, hst⟩

/-- The rounds of a wait are the same round by round. -/
theorem Polls.coupled {started : Duration} {intervalMs timeoutMs : Nat} {s s' : S}
    {outcome : Except Error Report} (hpolls : a.Polls started intervalMs timeoutMs s outcome s')
    (h : WaitsAlike a b lead R) {t : T} (hst : R s t) :
    ∃ t', b.Polls ⟨started.nanos + lead⟩ intervalMs timeoutMs t outcome t' ∧ R s' t' := by
  induction hpolls generalizing t with
  | @found s s' outcome look =>
    obtain ⟨hfound, hst'⟩ := look_coupled h started timeoutMs s t hst
    rw [look] at hfound hst'
    exact ⟨_, .found (Prod.ext hfound rfl), hst'⟩
  | @again s s₁ s' outcome look rest ih =>
    obtain ⟨hfound, hst₁⟩ := look_coupled h started timeoutMs s t hst
    rw [look] at hfound hst₁
    obtain ⟨t', hrest, hst'⟩ := ih (h.sleep intervalMs _ _ hst₁).2
    exact ⟨t', .again (Prod.ext hfound rfl) hrest, hst'⟩

/-- It is enough that one of the two has a clock that moves on: the other wait ends as well then. -/
theorem wait_coupled (h : WaitsAlike a b lead R) (hclock : Clocked a time) {intervalMs : Nat}
    (hpos : 0 < intervalMs) (timeoutMs : Nat) :
    Coupled R (a.wait intervalMs timeoutMs) (b.wait intervalMs timeoutMs) (Alike R) := by
  intro s t hst
  obtain ⟨hnow, hst₁⟩ := h.now s t hst
  obtain ⟨t', hpolls, hst'⟩ := (hclock.wait_polls hpos timeoutMs s).coupled h hst₁
  have hwait : b.wait intervalMs timeoutMs t = (_, t') := wait_eq_of_polls (hnow.symm ▸ hpolls)
  rw [hwait]
  exact ⟨rfl, hst'⟩

/-- **Similar surroundings have the same drains.** -/
theorem drain_coupled (h : Similar a b lead R) (hclock : Clocked a time) {p q : Plan}
    (iteration : Iteration) (hinterval : q.pollIntervalMs = p.pollIntervalMs)
    (htimeout : q.timeoutMs = p.timeoutMs) :
    Coupled R (a.drain p iteration) (b.drain q iteration) (Alike R) := by
  -- neither of the two commands is a reset
  refine (h.command (.seed iteration.items) (by simp)).bind_alike fun seeded => ?_
  rcases seeded with e | _
  · exact Coupled.ret fun _ _ hst => ⟨rfl, hst⟩
  · refine (h.command (.dispatch iteration.mode) (by simp)).bind_alike fun dispatched => ?_
    rcases dispatched with e | _
    · exact Coupled.ret fun _ _ hst => ⟨rfl, hst⟩
    · dsimp only
      rw [hinterval, htimeout]
      exact wait_coupled h.toWaitsAlike hclock p.pollIntervalMs_pos p.timeoutMs

end

/-! ### Runs -/

/-- **What one iteration keeps, a run keeps.** -/
theorem runFrom_coupled {a : Bench (StateM S)} {b : Bench (StateM T)} {R : S → T → Prop}
    {Q : RunResult → RunResult → Prop} {p q : Plan}
    (iterations : ∀ k, q.iterationAt? k = p.iterationAt? k)
    (announce : ∀ k iteration,
      Coupled R (a.announce k iteration) (b.announce k iteration) (Alike R))
    (once : ∀ iteration, Coupled R (a.runOnce p iteration) (b.runOnce q iteration)
      fun x y s t => Matching Q x y ∧ R s t)
    (record : ∀ r r', Q r r' → Coupled R (a.record r) (b.record r') (Alike R)) :
    ∀ n k, Coupled R (a.runFrom p n k) (b.runFrom q n k)
      fun x y s t => Matching (List.Forall₂ Q) x y ∧ R s t := by
  -- by induction on the iterations that remain, for all positions at once
  intro n
  induction n with
  | zero =>
    intro k
    exact Coupled.ret fun _ _ hst => ⟨List.Forall₂.nil, hst⟩
  | succ n ih =>
    intro k
    rw [runFrom, runFrom, iterations k]
    rcases p.iterationAt? k with _ | iteration
    · exact Coupled.ret fun _ _ hst => ⟨List.Forall₂.nil, hst⟩
    · refine (announce k iteration).bind_alike fun _ => ?_
      refine (once iteration).bind fun x y => Coupled.assuming fun hxy => ?_
      -- the two iterations end in the same way
      rcases x with e | r <;> rcases y with e' | r'
      · exact Coupled.ret fun _ _ hst => ⟨hxy, hst⟩
      · exact hxy.elim
      · exact hxy.elim
      · refine (record r r' hxy).bind_alike fun recorded => ?_
        rcases recorded with e | _
        · exact Coupled.ret fun _ _ hst => ⟨rfl, hst⟩
        · refine (ih (k + 1)).bind fun rs rs' => Coupled.assuming fun hrs => Coupled.ret ?_
          intro s t hst
          exact ⟨matching_map hrs fun _ _ hrest => List.Forall₂.cons hxy hrest, hst⟩

/-- Surroundings in which everything goes alike, seen from states that are related. -/
structure Twin (a : Bench (StateM S)) (b : Bench (StateM T)) (R : S → T → Prop) : Prop
    extends Similar a b 0 R where
  reset : Coupled R (a.command .reset) (b.command .reset) (Alike R)
  startSampler (intervalMs : Nat) :
    Coupled R (a.startSampler intervalMs) (b.startSampler intervalMs) (Alike R)
  finishSampler (graceMs : Nat) :
    Coupled R (a.finishSampler graceMs) (b.finishSampler graceMs) (Alike R)
  announce (position : Nat) (iteration : Iteration) :
    Coupled R (a.announce position iteration) (b.announce position iteration) (Alike R)
  record (result : RunResult) : Coupled R (a.record result) (b.record result) (Alike R)

section

variable {a : Bench (StateM S)} {b : Bench (StateM T)} {R : S → T → Prop} {time : S → Nat}

theorem runOnce_coupled (h : Twin a b R) (hclock : Clocked a time) (plan : Plan)
    (iteration : Iteration) :
    Coupled R (a.runOnce plan iteration) (b.runOnce plan iteration) (Alike R) := by
  -- the drain is the same with a sampler around it and without one
  have hdrain := drain_coupled h.toSimilar hclock (p := plan) iteration rfl rfl
  refine h.reset.bind_alike fun reset => ?_
  rcases reset with e | _
  · exact Coupled.ret fun _ _ hst => ⟨rfl, hst⟩
  · refine Coupled.bind_alike (R := R) ?_ fun _ => Coupled.ret fun _ _ hst => ⟨rfl, hst⟩
    rw [sampled, sampled]
    by_cases hs : plan.sampleHeap
    · rw [if_pos hs, if_pos hs]
      refine (h.startSampler _).bind_alike fun _ => ?_
      refine hdrain.bind_alike fun _ => ?_
      exact (h.finishSampler _).bind_alike fun _ => Coupled.ret fun _ _ hst => ⟨rfl, hst⟩
    · rw [if_neg hs, if_neg hs]
      exact hdrain.bind_alike fun _ => Coupled.ret fun _ _ hst => ⟨rfl, hst⟩

/-- **Twins have the same runs.** -/
theorem runMatrix_coupled (h : Twin a b R) (hclock : Clocked a time) (plan : Plan) :
    Coupled R (a.runMatrix plan) (b.runMatrix plan) (Alike R) := by
  intro s t hst
  have hrun := runFrom_coupled (Q := Eq) (p := plan) (q := plan) (fun _ => rfl) h.announce
    (fun iteration s t hst =>
      let hone := runOnce_coupled h hclock plan iteration s t hst
      ⟨matching_eq_iff.mpr hone.1, hone.2⟩)
    (fun r r' hr => hr ▸ h.record r) plan.countIterations 0 s t hst
  rw [List.forall₂_eq_eq_eq] at hrun
  exact ⟨matching_eq_iff.mp hrun.1, hrun.2⟩

end

/-- Surroundings that are part of larger ones are a twin of them. -/
theorem lift_twin (f : {α : Type} → StateM S α → StateM T α) (part : T → S)
    (hf : ∀ {α : Type} (x : StateM S α) (t : T),
      (f x t).1 = (x (part t)).1 ∧ part (f x t).2 = (x (part t)).2)
    (bench : Bench (StateM S)) : Twin bench (bench.lift f) fun s t => part t = s := by
  have hlift : ∀ {α : Type} (x : StateM S α),
      Coupled (fun s t => part t = s) x (f x) (Alike fun s t => part t = s) := by
    rintro α x s t rfl
    exact hf x t
  exact
    { now := by
        rintro s t rfl
        exact hf bench.now t
      sleep := fun ms => hlift (bench.sleep ms)
      command := fun c _ => hlift (bench.command c)
      report := hlift bench.report
      reset := hlift (bench.command .reset)
      startSampler := fun intervalMs => hlift (bench.startSampler intervalMs)
      finishSampler := fun graceMs => hlift (bench.finishSampler graceMs)
      announce := fun position iteration => hlift (bench.announce position iteration)
      record := fun result => hlift (bench.record result) }

/-! ### Properties of single states -/

/-- An action, started in a state with `P`, ends with an answer and a state related by `Q`. -/
def Ensures (P : S → Prop) (x : StateM S α) (Q : α → S → Prop) : Prop :=
  ∀ s, P s → Q (x s).1 (x s).2

theorem Ensures.bind {P : S → Prop} {Q : α → S → Prop} {Q' : β → S → Prop} {x : StateM S α}
    {k : α → StateM S β} (hx : Ensures P x Q) (hk : ∀ a, Ensures (Q a) (k a) Q') :
    Ensures P (x >>= k) Q' := by
  intro s hs
  exact hk _ _ (hx s hs)

/-- A property that holds after an action if it held before. -/
def Keeps (P : S → Prop) (x : StateM S α) : Prop := Ensures P x fun _ => P

theorem Keeps.coupled {P : S → Prop} {x : StateM S α} (h : Keeps P x) :
    Coupled (fun s t => t = s ∧ P s) x x (Alike fun s t => t = s ∧ P s) := by
  rintro s t ⟨rfl, hs⟩
  exact ⟨rfl, rfl, h _ hs⟩

theorem drain_keeps {bench : Bench (StateM S)} {P : S → Prop} {time : S → Nat}
    (hclock : Clocked bench time) (hnow : Keeps P bench.now)
    (hsleep : ∀ ms, Keeps P (bench.sleep ms))
    (hcommand : ∀ c, c ≠ .reset → Keeps P (bench.command c)) (hreport : Keeps P bench.report)
    (plan : Plan) (iteration : Iteration) : Keeps P (bench.drain plan iteration) := by
  have hsimilar : Similar bench bench 0 fun s t => t = s ∧ P s :=
    { now := by
        rintro s t ⟨rfl, hs⟩
        exact ⟨rfl, rfl, hnow _ hs⟩
      sleep := fun ms => (hsleep ms).coupled
      command := fun c hc => (hcommand c hc).coupled
      report := hreport.coupled }
  intro s hs
  exact (drain_coupled hsimilar hclock iteration rfl rfl s s ⟨rfl, hs⟩).2.2

theorem runFrom_keeps {bench : Bench (StateM S)} {P : S → Prop} {plan : Plan}
    (hannounce : ∀ k iteration, Keeps P (bench.announce k iteration))
    (honce : ∀ iteration, Keeps P (bench.runOnce plan iteration))
    (hrecord : ∀ result, Keeps P (bench.record result)) (n k : Nat) :
    Keeps P (bench.runFrom plan n k) := by
  intro s hs
  refine (runFrom_coupled (Q := Eq) (p := plan) (q := plan) (fun _ => rfl)
    (fun k iteration => (hannounce k iteration).coupled) (fun iteration s t hst => ?_)
    (fun r r' hr => hr ▸ (hrecord r).coupled) n k s s ⟨rfl, hs⟩).2.2
  have hone := (honce iteration).coupled s t hst
  exact ⟨matching_eq_iff.mpr hone.1, hone.2⟩

end Bench

end QueueDrain
