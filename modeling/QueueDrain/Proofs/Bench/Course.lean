import QueueDrain.Proofs.Bench.Coupling
import QueueDrain.Proofs.Bench.Steps
import QueueDrain.Proofs.Plan.Iterations

/-!
The course of a run, in any surroundings.

A `Course` goes from iteration to iteration: those that are completed and kept, one after the other,
and then either none is left or one ends with an error.  Every run has a course
(`course_runFrom`).  What holds as long as all goes well, and what holds once something has failed,
are carried along a course by `Course.ends`.

Design notes: an action `Ends` with one of two properties, by whether it gave an error.  Of a
benchmark it is enough to say this of its single actions (`Guards`); an error is passed on without
doing anything but ending a sampler.
-/

namespace QueueDrain.Bench

variable {S α β : Type}

/-! ### Good ends and bad ends -/

/-- The first property where there is no error, and the second one of the error if there is one. -/
def Ends (P : S → Prop) (F : Error → S → Prop) : Option Error → S → Prop
  | none, s => P s
  | some e, s => F e s

section

variable {P P' : S → Prop} {F : Error → S → Prop}

theorem ensures_error (e : Error) :
    Ensures (F e) (pure (.error e) : StateM S (Except Error α)) fun a => Ends P F (errorOf a) :=
  fun _ h => h

/-- An error is passed on, and what follows goes on from a good end. -/
theorem ensures_bind {x : StateM S (Except Error α)}
    {k : Except Error α → StateM S (Except Error β)}
    (hx : Ensures P x fun a => Ends P F (errorOf a))
    (herror : ∀ e, k (.error e) = pure (.error e))
    (hok : ∀ a, Ensures P (k (.ok a)) fun b => Ends P' F (errorOf b)) :
    Ensures P (x >>= k) fun b => Ends P' F (errorOf b) := by
  refine Ensures.bind hx fun a => ?_
  rcases a with e | a
  · rw [herror e]
    exact ensures_error e
  · exact hok a

end

/-- What the actions of a benchmark keep, and what holds of an error that one of them gives. -/
structure Guards (bench : Bench (StateM S)) (P : S → Prop) (F : Error → S → Prop) : Prop where
  now : Keeps P bench.now
  sleep (ms : Nat) : Keeps P (bench.sleep ms)
  command (c : Command) : Ensures P (bench.command c) fun a => Ends P F (errorOf a)
  report : Ensures P bench.report fun a => Ends P F (errorOf a)
  late (elapsed : Duration) (s : S) : P s → F (.pollTimeout elapsed) s
  startSampler (intervalMs : Nat) : Keeps P (bench.startSampler intervalMs)
  finishSampler (graceMs : Nat) (fault : Option Error) :
    Keeps (Ends P F fault) (bench.finishSampler graceMs)

namespace Guards

variable {bench : Bench (StateM S)} {P : S → Prop} {F : Error → S → Prop} {time : S → Nat}

theorem look (h : Guards bench P F) (started : Duration) (timeoutMs : Nat) :
    Ensures P (bench.look started timeoutMs) fun found => Ends P F (found.bind errorOf) := by
  refine h.report.bind fun outcome => ?_
  rcases outcome with e | report
  · exact fun _ hs => hs
  · dsimp only
    by_cases hd : report.isDrained
    · rw [if_pos hd]
      exact fun _ hs => hs
    · rw [if_neg hd]
      refine Ensures.bind h.now fun time => ?_
      by_cases hlt : Duration.ofMillis timeoutMs < time.since started
      · rw [if_pos hlt]
        exact fun s hs => h.late (time.since started) s hs
      · rw [if_neg hlt]
        exact fun _ hs => hs

theorem polls (h : Guards bench P F) {started : Duration} {intervalMs timeoutMs : Nat} {s s' : S}
    {outcome : Except Error Report} (hpolls : bench.Polls started intervalMs timeoutMs s outcome s')
    (hs : P s) : Ends P F (errorOf outcome) s' := by
  induction hpolls with
  | @found s s' outcome look =>
    have hend := h.look started timeoutMs s hs
    rw [look] at hend
    exact hend
  | @again s s₁ s' outcome look rest ih =>
    have hnext := h.look started timeoutMs s hs
    rw [look] at hnext
    exact ih (h.sleep intervalMs s₁ hnext)

theorem drain (h : Guards bench P F) (hclock : Clocked bench time) (plan : Plan)
    (iteration : Iteration) :
    Ensures P (bench.drain plan iteration) fun a => Ends P F (errorOf a) := by
  refine ensures_bind (h.command _) (fun _ => rfl) fun _ => ?_
  refine ensures_bind (h.command _) (fun _ => rfl) fun _ => ?_
  intro s hs
  exact h.polls (hclock.wait_polls plan.pollIntervalMs_pos plan.timeoutMs s) (h.now s hs)

/-- A sampler is ended after a failure too. -/
theorem sampled (h : Guards bench P F) (plan : Plan) {work : StateM S (Except Error α)}
    (hwork : Ensures P work fun a => Ends P F (errorOf a)) :
    Ensures P (bench.sampled plan work) fun x => Ends P F (errorOf x.1) := by
  rw [Bench.sampled]
  by_cases hs : plan.sampleHeap
  · rw [if_pos hs]
    refine Ensures.bind (h.startSampler _) fun _ => ?_
    refine Ensures.bind hwork fun a => ?_
    exact Ensures.bind (h.finishSampler _ (errorOf a)) fun _ _ hs => hs
  · rw [if_neg hs]
    exact Ensures.bind hwork fun _ _ hs => hs

theorem runOnce (h : Guards bench P F) (hclock : Clocked bench time) (plan : Plan)
    (iteration : Iteration) :
    Ensures P (bench.runOnce plan iteration) fun a => Ends P F (errorOf a) := by
  refine ensures_bind (h.command _) (fun _ => rfl) fun _ => ?_
  refine Ensures.bind (h.sampled plan (h.drain hclock plan iteration)) fun x s hs => ?_
  show Ends P F (errorOf (x.1.map _)) s
  rw [errorOf_map]
  exact hs

section

variable {T : Type} {f : {α : Type} → StateM S α → StateM T α}

/-- What is kept of a part of larger surroundings. -/
theorem lift (h : Guards bench P F) (part : T → S)
    (hf : ∀ {α : Type} (x : StateM S α) (t : T),
      (f x t).1 = (x (part t)).1 ∧ part (f x t).2 = (x (part t)).2) :
    Guards (bench.lift f) (fun t => P (part t)) fun e t => F e (part t) := by
  have hends : ∀ (fault : Option Error) (t : T),
      Ends (fun t => P (part t)) (fun e t => F e (part t)) fault t ↔ Ends P F fault (part t) := by
    rintro (_ | e) t <;> rfl
  have hkeeps : ∀ {α : Type} {x : StateM S α}, Keeps P x → Keeps (fun t => P (part t)) (f x) := by
    intro α x hx t ht
    show P (part (f x t).2)
    rw [(hf x t).2]
    exact hx _ ht
  have hcall : ∀ {α : Type} {x : StateM S (Except Error α)},
      Ensures P x (fun a => Ends P F (errorOf a)) →
        Ensures (fun t => P (part t)) (f x)
          fun a => Ends (fun t => P (part t)) (fun e t => F e (part t)) (errorOf a) := by
    intro α x hx t ht
    rw [(hf x t).1, hends, (hf x t).2]
    exact hx _ ht
  exact
    { now := hkeeps h.now
      sleep := fun ms => hkeeps (h.sleep ms)
      command := fun c => hcall (h.command c)
      report := hcall h.report
      late := fun elapsed t ht => h.late elapsed (part t) ht
      startSampler := fun intervalMs => hkeeps (h.startSampler intervalMs)
      finishSampler := fun graceMs fault t ht => by
        show Ends _ _ fault (f (bench.finishSampler graceMs) t).2
        rw [hends, (hf _ t).2]
        exact h.finishSampler graceMs fault (part t) ((hends fault t).mp ht) }

end

end Guards

/-! ### Sessions -/

section

variable {σ : Type} {target : Target σ} {P : Option Error → σ → Prop}

end

/-! ### Courses -/

/--
From a position of the plan on and from a state, the iterations are completed with these results,
and then there are none left, or the next one ends with an error.
-/
inductive Course (bench : Bench (StateM S)) (plan : Plan) :
    Nat → List Iteration → S → List RunResult → Option Error → S → Prop where
  | done {k : Nat} {s : S} : Course bench plan k [] s [] none s
  | failed {k : Nat} {iteration : Iteration} {more : List Iteration} {s s' : S} {e : Error}
    (once : bench.runOnce plan iteration (bench.announce k iteration s).2 = (.error e, s')) :
    Course bench plan k (iteration :: more) s [] (some e) s'
  | lost {k : Nat} {iteration : Iteration} {more : List Iteration} {s s₁ s' : S} {e : Error}
    {result : RunResult}
    (once : bench.runOnce plan iteration (bench.announce k iteration s).2 = (.ok result, s₁))
    (record : bench.record result s₁ = (.error e, s')) :
    Course bench plan k (iteration :: more) s [] (some e) s'
  | kept {k : Nat} {iteration : Iteration} {more : List Iteration} {s s₁ s₂ s' : S}
    {result : RunResult} {rows : List RunResult} {fault : Option Error}
    (once : bench.runOnce plan iteration (bench.announce k iteration s).2 = (.ok result, s₁))
    (record : bench.record result s₁ = (.ok (), s₂))
    (rest : Course bench plan (k + 1) more s₂ rows fault s') :
    Course bench plan k (iteration :: more) s (result :: rows) fault s'

namespace Course

variable {bench : Bench (StateM S)} {plan : Plan} {k : Nat} {iterations : List Iteration}
  {s s' : S} {rows : List RunResult} {fault : Option Error}

/-- **What is kept while all goes well, and what holds of the first failure.** -/
theorem ends {P : List RunResult → S → Prop} {F : List RunResult → Error → S → Prop}
    {time : S → Nat} (hclock : Clocked bench time) (guards : ∀ rows, Guards bench (P rows) (F rows))
    (announce : ∀ rows k iteration, Keeps (P rows) (bench.announce k iteration))
    (record : ∀ rows result, Ensures (P rows) (bench.record result)
      fun a => Ends (P (rows ++ [result])) (F rows) (errorOf a))
    (h : Course bench plan k iterations s rows fault s') :
    ∀ before, P before s → Ends (P (before ++ rows)) (F (before ++ rows)) fault s' := by
  have honce : ∀ before k iteration s, P before s →
      Ends (P before) (F before)
        (errorOf (bench.runOnce plan iteration (bench.announce k iteration s).2).1)
        (bench.runOnce plan iteration (bench.announce k iteration s).2).2 :=
    fun before k iteration s hs =>
      (guards before).runOnce hclock plan iteration _ (announce before k iteration s hs)
  induction h with
  | done =>
    intro before hs
    rw [List.append_nil]
    exact hs
  | @failed k iteration more s s' e once =>
    intro before hs
    have hend := honce before k iteration s hs
    rw [once] at hend
    rw [List.append_nil]
    exact hend
  | @lost k iteration more s s₁ s' e result once hrecord =>
    intro before hs
    have hend := honce before k iteration s hs
    rw [once] at hend
    have hlost := record before result s₁ hend
    rw [hrecord] at hlost
    rw [List.append_nil]
    exact hlost
  | @kept k iteration more s s₁ s₂ s' result rows fault once hrecord rest ih =>
    intro before hs
    have hend := honce before k iteration s hs
    rw [once] at hend
    have hkept := record before result s₁ hend
    rw [hrecord] at hkept
    have hrest := ih (before ++ [result]) hkept
    rw [List.append_assoc, List.singleton_append] at hrest
    exact hrest

end Course

/-- **Every run has a course**, and ends as its course does. -/
theorem course_runFrom (bench : Bench (StateM S)) (plan : Plan) (n k : Nat) (s : S)
    (hlength : plan.iterations.length = k + n) :
    ∃ rows, Course bench plan k (plan.iterations.drop k) s rows
        (errorOf (bench.runFrom plan n k s).1) (bench.runFrom plan n k s).2 ∧
      ∀ results, (bench.runFrom plan n k s).1 = .ok results → results = rows := by
  induction n generalizing k s with
  | zero =>
    rw [List.drop_eq_nil_of_le (by omega)]
    exact ⟨[], .done, fun results hresults => (Except.ok.inj hresults).symm⟩
  | succ n ih =>
    have hk : k < plan.iterations.length := by omega
    have hat : plan.iterationAt? k = some plan.iterations[k] := by
      rw [Plan.iterationAt?_eq_getElem?, List.getElem?_eq_getElem hk]
    rw [List.drop_eq_getElem_cons hk, runFrom_succ_apply bench plan n k hat]
    rcases honce : bench.runOnce plan plan.iterations[k] (bench.announce k plan.iterations[k] s).2
      with ⟨e | result, s₁⟩
    · refine ⟨[], .failed honce, fun results hresults => ?_⟩
      cases hresults
    · dsimp only
      rcases hrecord : bench.record result s₁ with ⟨e | u, s₂⟩
      · refine ⟨[], .lost honce hrecord, fun results hresults => ?_⟩
        cases hresults
      · obtain ⟨rows, hcourse, hresults⟩ := ih (k + 1) s₂ (by omega)
        dsimp only
        rw [errorOf_map]
        refine ⟨result :: rows, .kept honce hrecord hcourse, fun results hmap => ?_⟩
        obtain ⟨rest, hrest, rfl⟩ := exists_of_map_eq_ok hmap
        rw [hresults rest hrest]

/-- The course of a run of a whole plan. -/
theorem course_runMatrix (bench : Bench (StateM S)) (plan : Plan) (s : S) :
    ∃ rows, Course bench plan 0 plan.iterations s rows
        (errorOf (bench.runMatrix plan s).1) (bench.runMatrix plan s).2 ∧
      ∀ results, (bench.runMatrix plan s).1 = .ok results → results = rows :=
  course_runFrom bench plan plan.countIterations 0 s
    (by rw [Plan.length_iterations, Nat.zero_add])

/-- What the actions of a benchmark keep, a run keeps. -/
theorem Guards.runMatrix {bench : Bench (StateM S)} {P : S → Prop} {F : Error → S → Prop}
    {time : S → Nat} (h : Guards bench P F) (hclock : Clocked bench time)
    (announce : ∀ k iteration, Keeps P (bench.announce k iteration))
    (record : ∀ result, Ensures P (bench.record result) fun a => Ends P F (errorOf a))
    (plan : Plan) : Ensures P (bench.runMatrix plan) fun a => Ends P F (errorOf a) := by
  intro s hs
  obtain ⟨rows, hcourse, -⟩ := course_runMatrix bench plan s
  exact hcourse.ends (P := fun _ => P) (F := fun _ => F) hclock (fun _ => h) (fun _ => announce)
    (fun _ => record) [] hs

end QueueDrain.Bench
