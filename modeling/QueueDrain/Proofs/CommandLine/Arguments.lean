import QueueDrain.CommandLine.Parse
import QueueDrain.Proofs.Plan.Sources
import QueueDrain.Proofs.Text.Blank

/-!
What arguments look like, and which of them decides about the sampler.

An argument that begins with two hyphens is a name, perhaps with a value behind an equals sign
(`Argument.of_name`, `Argument.of_assignment`).  Two of these names turn the sampler on and off; in
a command line that is accepted the last one of them decides (`sampleHeap_of_parse`), in whatever
way the other arguments give their values.

Design notes: no argument that turns the sampler on or off can be taken for a value, because a value
that stands on its own does not begin with two hyphens.
-/

namespace QueueDrain.CommandLine

/-! ### The look of an argument -/

namespace Argument

theorem of_eq_long {arg : String} {c : Char} {cs : List Char}
    (h : arg.toList = '-' :: '-' :: c :: cs) :
    Argument.of arg =
      match (c :: cs).span (· != '=') with
      | (name, []) => .long (String.ofList name) none
      | (name, _ :: value) => .long (String.ofList name) (some (String.ofList value)) := by
  rw [Argument.of, h]
  rfl

/-- Two hyphens and a name. -/
theorem of_name (name : String) (hne : name.toList ≠ []) (hname : name.toList.all (· != '=')) :
    Argument.of ("--" ++ name) = .long name none := by
  obtain ⟨c, cs, hcs⟩ := List.exists_cons_of_ne_nil hne
  have harg : ("--" ++ name).toList = '-' :: '-' :: c :: cs := by
    rw [String.toList_append, hcs]
    rfl
  rw [of_eq_long harg, ← hcs, Text.span_of_all (List.all_eq_true.mp hname)]
  dsimp only
  rw [String.ofList_toList]

/-- Two hyphens, a name, and a value behind an equals sign. -/
theorem of_assignment {name : String} (hne : name.toList ≠ [])
    (hname : name.toList.all (· != '=')) (value : String) :
    Argument.of ("--" ++ name ++ "=" ++ value) = .long name (some value) := by
  obtain ⟨c, cs, hcs⟩ := List.exists_cons_of_ne_nil hne
  have harg : ("--" ++ name ++ "=" ++ value).toList =
      '-' :: '-' :: c :: (cs ++ '=' :: value.toList) := by
    rw [String.toList_append, String.toList_append, String.toList_append, hcs, List.append_assoc]
    rfl
  rw [of_eq_long harg, ← List.cons_append, ← hcs,
    Text.span_append_cons (List.all_eq_true.mp hname) (by decide)]
  dsimp only
  rw [String.ofList_toList, String.ofList_toList]

/-- A name without a value is all that stands behind the two hyphens. -/
theorem eq_of_long {arg name : String} (h : Argument.of arg = .long name none) :
    arg = "--" ++ name := by
  rw [Argument.of] at h
  split at h
  · cases h
  · rename_i cs _ harg
    rw [List.span_eq_takeWhile_dropWhile] at h
    rcases hrest : cs.dropWhile (· != '=') with _ | ⟨c, value⟩
    · rw [hrest] at h
      obtain ⟨rfl⟩ : String.ofList (cs.takeWhile (· != '=')) = name := by
        simpa using h
      have hcs := List.takeWhile_append_dropWhile (p := (· != '=')) (l := cs)
      rw [hrest, List.append_nil] at hcs
      rw [← String.toList_inj, harg, String.toList_append, hcs]
      show '-' :: '-' :: cs = '-' :: '-' :: (String.ofList cs).toList
      rw [String.toList_ofList]
    · rw [hrest] at h
      simp at h
  · cases h
  · cases h

end Argument

/-! ### The sampler -/

/-- What an argument says about the sampler: on, off or nothing. -/
def switch? (arg : String) : Option Bool :=
  if arg = "--sampler" then some true else if arg = "--no-sampler" then some false else none

/-- What the arguments of a command line say about the sampler, in order. -/
def switches (args : List String) : List Bool := args.filterMap switch?

theorem switch?_eq_of_long {arg name : String} (h : Argument.of arg = .long name none) :
    switch? arg =
      if name = "sampler" then some true else if name = "no-sampler" then some false else none := by
  have heq := Argument.eq_of_long h
  have hname : ∀ s : String, arg = "--" ++ s ↔ name = s := by
    intro s
    rw [heq, String.append_right_inj]
  rw [switch?]
  simp only [← hname]
  rfl

/-- Only a name without a value says something about the sampler. -/
theorem switch?_eq_none {arg : String} (h : ∀ name, Argument.of arg ≠ .long name none) :
    switch? arg = none := by
  rw [switch?, if_neg, if_neg]
  · rintro rfl
    exact h "no-sampler" (Argument.of_name "no-sampler" (by decide) (by decide))
  · rintro rfl
    exact h "sampler" (Argument.of_name "sampler" (by decide) (by decide))

namespace Progress

variable {p q : Progress} {setting : Setting} {text : String}

/-- What has been collected with one more value. -/
def add (p : Progress) (setting : Setting) (v : Value) : Progress :=
  { p with assignment := p.assignment ++ [(setting, v)] }

theorem assign_eq_ok_iff :
    p.assign setting text = .ok q ↔
      p.assignment.get? setting = none ∧
        ∃ v, Value.read setting.kind text = .ok v ∧ q = p.add setting v := by
  rw [assign]
  rcases hget : p.assignment.get? setting with _ | v
  · rw [if_neg (by simp)]
    rcases hread : Value.read setting.kind text with e | v
    · constructor
      · rintro ⟨⟩
      · rintro ⟨-, v, hv, -⟩
        cases hv
    · constructor
      · rintro ⟨⟩
        exact ⟨rfl, v, rfl, rfl⟩
      · rintro ⟨-, v', hv', rfl⟩
        obtain rfl := Except.ok.inj hv'
        rfl
  · rw [if_pos Option.isSome_some]
    constructor
    · rintro ⟨⟩
    · rintro ⟨hnone, -⟩
      cases hnone

theorem setSampler_eq_ok_iff {on : Bool} :
    p.setSampler on = .ok q ↔ p.sampler ≠ some on ∧ q = { p with sampler := some on } := by
  rw [setSampler]
  by_cases h : p.sampler = some on
  · rw [if_pos h]
    constructor
    · rintro ⟨⟩
    · rintro ⟨hne, -⟩
      exact absurd h hne
  · rw [if_neg h]
    constructor
    · rintro ⟨⟩
      exact ⟨h, rfl⟩
    · rintro ⟨-, rfl⟩
      rfl

theorem assign_sampler (h : p.assign setting text = .ok q) : q.sampler = p.sampler := by
  obtain ⟨-, v, -, rfl⟩ := assign_eq_ok_iff.mp h
  rfl

theorem settle_sampler (h : p.settle = .ok q) : q.sampler = p.sampler := by
  rw [settle] at h
  split at h
  · obtain rfl := Except.ok.inj h
    rfl
  · cases h
  · have hassign := assign_sampler h
    exact hassign

theorem setSampler_sampler {on : Bool} (h : p.setSampler on = .ok q) : q.sampler = some on := by
  obtain ⟨-, rfl⟩ := setSampler_eq_ok_iff.mp h
  rfl

theorem value_sampler {s : String} (h : p.value s = .ok q) : q.sampler = p.sampler := by
  rw [value] at h
  split at h
  · obtain rfl := Except.ok.inj h
    rfl
  · cases h

theorem short_sampler {letters : List Char} (h : p.short letters = .ok q) :
    q.sampler = p.sampler := by
  rw [short] at h
  split at h
  · exact value_sampler h
  · split at h
    · obtain ⟨_, -, h⟩ := eq_ok_of_bind_eq_ok h
      cases h
    · cases h

/-! What a name leads to, for the flag of a setting and for any other name. -/

theorem long_assigned {name : String} {setting : Setting}
    (h : Setting.ofFlag? name = some setting) (value : String) :
    p.long name (some value) = p.settle >>= (·.assign setting value) := by
  unfold long
  rw [h]

theorem long_awaited {name : String} {setting : Setting}
    (h : Setting.ofFlag? name = some setting) :
    p.long name none = p.settle >>= fun p' => .ok { p' with pending := some (setting, none) } := by
  unfold long
  rw [h]

theorem long_overfull {name : String} (h : Setting.ofFlag? name = none) (value : String) :
    p.long name (some value) = .error .tooManyValues ∨
      p.long name (some value) = .error .unknownArgument := by
  unfold long
  rw [h]
  dsimp only
  split
  · exact Or.inl rfl
  · split
    · exact Or.inl rfl
    · split
      · exact Or.inl rfl
      · exact Or.inr rfl

theorem long_sampler : p.long "sampler" none = p.settle >>= (·.setSampler true) := rfl

theorem long_no_sampler : p.long "no-sampler" none = p.settle >>= (·.setSampler false) := rfl

/-- Any other name is refused, if only because help is asked for. -/
theorem long_refused {name : String} (h : Setting.ofFlag? name = none) (hon : name ≠ "sampler")
    (hoff : name ≠ "no-sampler") : p.long name none ≠ .ok q := by
  unfold long
  rw [h]
  dsimp only
  rw [if_neg hon, if_neg hoff]
  split
  · intro hrun
    obtain ⟨p', -, hrefused⟩ := eq_ok_of_bind_eq_ok hrun
    cases hrefused
  · rintro ⟨⟩

theorem sampler_of_long_some {name value : String} (h : p.long name (some value) = .ok q) :
    q.sampler = p.sampler := by
  rcases hflag : Setting.ofFlag? name with _ | setting
  · rcases long_overfull (p := p) hflag value with herror | herror <;> cases herror.symm.trans h
  · rw [long_assigned hflag] at h
    obtain ⟨p', hp', h⟩ := eq_ok_of_bind_eq_ok h
    rw [assign_sampler h, settle_sampler hp']

/-- A name alone turns the sampler on or off, or it leaves it as it is. -/
theorem sampler_of_long_none {arg name : String} (harg : Argument.of arg = .long name none)
    (h : p.long name none = .ok q) : q.sampler = (switch? arg).or p.sampler := by
  rw [switch?_eq_of_long harg]
  by_cases hon : name = "sampler"
  · subst hon
    rw [long_sampler] at h
    obtain ⟨p', -, h⟩ := eq_ok_of_bind_eq_ok h
    exact setSampler_sampler h
  · rw [if_neg hon]
    by_cases hoff : name = "no-sampler"
    · subst hoff
      rw [long_no_sampler] at h
      obtain ⟨p', -, h⟩ := eq_ok_of_bind_eq_ok h
      exact setSampler_sampler h
    · rw [if_neg hoff]
      rcases hflag : Setting.ofFlag? name with _ | setting
      · exact absurd h (long_refused hflag hon hoff)
      · rw [long_awaited hflag] at h
        obtain ⟨p', hp', h⟩ := eq_ok_of_bind_eq_ok h
        obtain rfl := Except.ok.inj h
        have hsettle := settle_sampler hp'
        exact hsettle

/-- One argument, and what comes after it. -/
theorem run_cons {arg : String} {args : List String} (h : p.run (arg :: args) = .ok q) :
    ∃ p' : Progress, p'.sampler = (switch? arg).or p.sampler ∧ p'.run args = .ok q := by
  have hnone (hne : ∀ name, Argument.of arg ≠ .long name none) {p' : Progress}
      (hp' : p'.sampler = p.sampler) : p'.sampler = (switch? arg).or p.sampler := by
    rw [switch?_eq_none hne, Option.none_or, hp']
  rw [run] at h
  rcases harg : Argument.of arg with _ | ⟨name, _ | value⟩ | letters | s
  · rw [harg] at h
    dsimp only at h
    split at h
    · rename_i hargs
      refine ⟨p, hnone (fun name hname => by cases harg.symm.trans hname) rfl, ?_⟩
      rw [hargs]
      exact h
    · cases h
  · rw [harg] at h
    obtain ⟨p', hp', h⟩ := eq_ok_of_bind_eq_ok h
    exact ⟨p', sampler_of_long_none harg hp', h⟩
  · rw [harg] at h
    obtain ⟨p', hp', h⟩ := eq_ok_of_bind_eq_ok h
    exact ⟨p', hnone (fun name hname => by cases harg.symm.trans hname)
      (sampler_of_long_some hp'), h⟩
  · rw [harg] at h
    obtain ⟨p', hp', h⟩ := eq_ok_of_bind_eq_ok h
    exact ⟨p', hnone (fun name hname => by cases harg.symm.trans hname) (short_sampler hp'), h⟩
  · rw [harg] at h
    obtain ⟨p', hp', h⟩ := eq_ok_of_bind_eq_ok h
    exact ⟨p', hnone (fun name hname => by cases harg.symm.trans hname) (value_sampler hp'), h⟩

/-- At the end of a run the sampler is as the last argument left it that speaks of it. -/
theorem run_sampler {args : List String} (h : p.run args = .ok q) :
    q.sampler = (switches args).getLast?.or p.sampler := by
  induction args generalizing p with
  | nil => exact settle_sampler h
  | cons arg args ih =>
    obtain ⟨p', hp', hrun⟩ := run_cons h
    rw [ih hrun, hp', ← Option.or_assoc]
    congr 1
    rw [switches, switches, List.filterMap_cons]
    rcases switch? arg with _ | on
    · exact Option.or_none
    · rw [List.getLast?_cons]
      rcases (args.filterMap switch?).getLast? with _ | last <;> rfl

end Progress

theorem eq_name_of_ofName? {name : String} {profile : Profile}
    (h : Profile.ofName? name = some profile) : name = profile.name := by
  have hname := List.find?_some (p := fun profile : Profile => profile.name == name) h
  exact (beq_iff_eq.mp hname).symm

/-- What an accepted command line consists of: a profile, and arguments that are run and completed
from the environment. -/
theorem exists_run_of_parse {args : List String} {env : String → Option String}
    {invocation : Invocation} (h : parse args env = .ok invocation) :
    ∃ profile rest p assignment, args = profile.name :: rest ∧ Progress.run {} rest = .ok p ∧
      fromEnvironment env p.assignment Setting.all = .ok assignment ∧
      invocation = ⟨profile, assignment.inputs p.sampler, assignment.outputDir⟩ := by
  rcases args with _ | ⟨arg, rest⟩
  · cases h
  · rw [parse] at h
    rcases hname : Profile.ofName? arg with _ | profile
    · rw [hname] at h
      dsimp only at h
      -- without a profile there is nothing but refusals
      repeat' split at h
      all_goals cases h
    · rw [hname] at h
      obtain ⟨p, hrun, h⟩ := eq_ok_of_bind_eq_ok h
      obtain ⟨assignment, henv, h⟩ := eq_ok_of_bind_eq_ok h
      refine ⟨profile, rest, p, assignment, ?_, hrun, henv, (Except.ok.inj h).symm⟩
      rw [eq_name_of_ofName? hname]

theorem switches_profile (profile : Profile) (args : List String) :
    switches (profile.name :: args) = switches args := by
  cases profile <;> rfl

/-- **The last argument that speaks of the sampler decides about it** in each command line that is
accepted. -/
theorem sampleHeap_of_parse {args : List String} {env : String → Option String}
    {invocation : Invocation} (h : parse args env = .ok invocation) :
    invocation.inputs.sampleHeap = (switches args).getLast? := by
  obtain ⟨profile, rest, p, assignment, rfl, hrun, -, rfl⟩ := exists_run_of_parse h
  rw [switches_profile]
  exact (Progress.run_sampler hrun).trans Option.or_none

end QueueDrain.CommandLine
