import QueueDrain.Proofs.CommandLine.Values

/-!
Values of settings, split between the command line and the environment.

A benchmark is given values for some of its settings, each of them by an argument or by a variable
(`Split`).  `Split.splits_agree` says that nothing but the values and the last word on the sampler
counts: whichever values stand in arguments, and wherever, the same benchmark is run, and a variable
beside an argument for the same setting is not looked at.

Design notes: `Configures` says what an invocation has for its values, setting by setting and
without the assignment behind it.  It leaves no choice (`Configures.unique`), so two splits agree as
soon as both are accepted.
-/

namespace QueueDrain.CommandLine

variable {setting : Setting} {text : String}

/-! ### Splits -/

theorem mem_all (s : Setting) : s ∈ Setting.all := by
  cases s <;> decide

/-- Each variable belongs to one setting. -/
theorem find?_variableName (s : Setting) :
    Setting.all.find? (·.variableName == s.variableName) = some s := by
  cases s <;> rfl

theorem ofName?_name (profile : Profile) : Profile.ofName? profile.name = some profile := by
  cases profile <;> rfl

/-- Values in arguments and in variables of the environment. -/
structure Split where
  items : List Item
  env : String → Option String

namespace Split

/-- The settings that have their values from arguments. -/
def chosen (x : Split) : List Setting := (given x.items).map Prod.fst

/-- The command line of a split. -/
def parse (x : Split) (profile : Profile) : Except Usage Invocation :=
  CommandLine.parse (profile.name :: x.items.map Item.argument) x.env

/-- A split gives these values.  The variable of a setting that has its value from an argument may
hold anything. -/
structure Gives (values : Setting → Option String) (x : Split) : Prop where
  once : x.chosen.Nodup
  arguments : ∀ pair ∈ given x.items, values pair.1 = some pair.2
  environment : ∀ s ∉ x.chosen, x.env s.variableName = values s

variable {profile : Profile} {values : Setting → Option String} {x : Split}
  {invocation : Invocation}

/-- Whichever arguments give some of the values, there is an environment for the others. -/
theorem exists_env {items : List Item} (honce : ((given items).map Prod.fst).Nodup)
    (harguments : ∀ pair ∈ given items, values pair.1 = some pair.2) :
    ∃ env, Gives values ⟨items, env⟩ := by
  refine ⟨fun name => (Setting.all.find? (·.variableName == name)).bind values, honce,
    harguments, fun s _ => ?_⟩
  dsimp only
  rw [find?_variableName, Option.bind_some]

theorem parse_eq_ok_iff :
    x.parse profile = .ok invocation ↔
      ∃ p assignment, x.items.foldlM Item.act {} = .ok p ∧
        fromEnvironment x.env p.assignment Setting.all = .ok assignment ∧
        invocation = ⟨profile, assignment.inputs p.sampler, assignment.outputDir⟩ := by
  rw [parse, CommandLine.parse, ofName?_name]
  dsimp only
  rw [parseProfile, Progress.run_items rfl]
  constructor
  · intro h
    obtain ⟨p, hrun, h⟩ := eq_ok_of_bind_eq_ok h
    obtain ⟨assignment, henv, h⟩ := eq_ok_of_bind_eq_ok h
    exact ⟨p, assignment, hrun, henv, (Except.ok.inj h).symm⟩
  · rintro ⟨p, assignment, hrun, henv, rfl⟩
    rw [hrun]
    show (fromEnvironment x.env p.assignment Setting.all >>= _) = _
    rw [henv]
    rfl

theorem mem_chosen {s : Setting} : s ∈ x.chosen ↔ ∃ text, (s, text) ∈ given x.items := by
  rw [chosen, List.mem_map]
  constructor
  · rintro ⟨⟨_, text⟩, hpair, rfl⟩
    exact ⟨text, hpair⟩
  · rintro ⟨text, hpair⟩
    exact ⟨(s, text), hpair, rfl⟩

/-- The value that the arguments give to a setting. -/
theorem Gives.lookup_given (h : Gives values x) (s : Setting) :
    (given x.items).lookup s = if s ∈ x.chosen then values s else none := by
  rcases hlookup : (given x.items).lookup s with _ | text
  · rw [if_neg]
    intro hs
    obtain ⟨text, hpair⟩ := mem_chosen.mp hs
    have hne := List.lookup_eq_none_iff.mp hlookup _ hpair
    rw [bne_self_eq_false] at hne
    cases hne
  · obtain ⟨before, after, heq, -⟩ := List.lookup_eq_some_iff.mp hlookup
    have hpair : (s, text) ∈ given x.items := by
      rw [heq]
      exact List.mem_append_cons_self
    rw [if_pos (mem_chosen.mpr ⟨text, hpair⟩), h.arguments _ hpair]

/-- A split is accepted if all values are of their kinds and no flag is repeated. -/
theorem Gives.exists_parse_iff (h : Gives values x) :
    (∃ invocation, x.parse profile = .ok invocation) ↔
      (∀ s text, values s = some text → s.Admits text) ∧
        (flags x.items).IsChain (· ≠ ·) := by
  constructor
  · rintro ⟨invocation, hparse⟩
    obtain ⟨p, assignment, hrun, henv, -⟩ := parse_eq_ok_iff.mp hparse
    have htakes := Progress.exists_foldlM_iff.mp ⟨p, hrun⟩
    refine ⟨fun s text hs => ?_, htakes.alternates⟩
    by_cases hmem : s ∈ x.chosen
    · obtain ⟨text', hpair⟩ := mem_chosen.mp hmem
      obtain rfl : text = text' := Option.some.inj (hs.symm.trans (h.arguments _ hpair))
      exact htakes.admits _ hpair
    · have hopen : p.assignment.get? s = none := by
        rw [Progress.get?_of_foldlM hrun, h.lookup_given, if_neg hmem]
        rfl
      exact exists_fromEnvironment_iff.mp ⟨assignment, henv⟩ s (mem_all s) hopen text
        ((h.environment s hmem).trans hs)
  · rintro ⟨hadmits, halternates⟩
    have htakes : Progress.Takes {} x.items :=
      { fresh := fun _ _ => rfl
        once := h.once
        admits := fun pair hpair => hadmits _ _ (h.arguments pair hpair)
        alternates := halternates }
    obtain ⟨p, hrun⟩ := Progress.exists_foldlM_iff.mpr htakes
    have henv : ∃ assignment, fromEnvironment x.env p.assignment Setting.all = .ok assignment := by
      refine exists_fromEnvironment_iff.mpr fun s _ hopen text htext => ?_
      have hmem : s ∉ x.chosen := by
        intro hmem
        obtain ⟨text', hpair⟩ := mem_chosen.mp hmem
        have hvalue := h.arguments _ hpair
        obtain ⟨v, hv⟩ := exists_read_iff.mpr (hadmits _ _ hvalue)
        rw [Progress.get?_of_foldlM hrun, h.lookup_given, if_pos hmem, hvalue, Option.bind_some,
          read?_of_read hv] at hopen
        cases hopen
      exact hadmits s text ((h.environment s hmem).symm.trans htext)
    obtain ⟨assignment, hassignment⟩ := henv
    exact ⟨_, parse_eq_ok_iff.mpr ⟨p, assignment, hrun, hassignment, rfl⟩⟩

/-- What is looked up in the end is the value of the setting. -/
theorem Gives.get?_of_parse (h : Gives values x) {p : Progress} {assignment : Assignment}
    (hrun : x.items.foldlM Item.act {} = .ok p)
    (henv : fromEnvironment x.env p.assignment Setting.all = .ok assignment) (s : Setting) :
    assignment.get? s = (values s).bind s.read? := by
  rw [get?_of_fromEnvironment henv, if_pos (mem_all s), Progress.get?_of_foldlM hrun,
    h.lookup_given]
  by_cases hmem : s ∈ x.chosen
  · obtain ⟨text, hpair⟩ := mem_chosen.mp hmem
    have hadmits := (Progress.exists_foldlM_iff.mp ⟨p, hrun⟩).admits _ hpair
    obtain ⟨v, hv⟩ := exists_read_iff.mpr hadmits
    rw [if_pos hmem, h.arguments _ hpair]
    dsimp only
    rw [Option.bind_some, read?_of_read hv]
    rfl
  · rw [if_neg hmem, h.environment s hmem]
    rfl

end Split

/-! ### Invocations -/

/-- The number of a setting with a default. -/
inductive IsIntegerOr (default : Int) : Option String → Int → Prop where
  | absent : IsIntegerOr default none default
  | given {text : String} {n : Int} (h : IsInteger text n) : IsIntegerOr default (some text) n

/-- An invocation is what these values and the last word on the sampler ask for. -/
structure Configures (profile : Profile) (values : Setting → Option String)
    (sampler : Option Bool) (invocation : Invocation) : Prop where
  profile : invocation.profile = profile
  baseUrl : invocation.inputs.baseUrl = (values .baseUrl).getD "http://localhost:8070"
  itemsList : invocation.inputs.itemsList = values .itemsList
  itemsStart : Option.Rel IsInteger (values .itemsStart) invocation.inputs.itemsStart
  itemsEnd : Option.Rel IsInteger (values .itemsEnd) invocation.inputs.itemsEnd
  itemsStep : Option.Rel IsInteger (values .itemsStep) invocation.inputs.itemsStep
  modes : invocation.inputs.modes = values .modes
  runs : IsIntegerOr 3 (values .runs) invocation.inputs.runs
  pollIntervalMs : IsIntegerOr 1000 (values .pollIntervalMs) invocation.inputs.pollIntervalMs
  timeoutMs : IsIntegerOr 600000 (values .timeoutMs) invocation.inputs.timeoutMs
  samplerIntervalMs : IsIntegerOr 500 (values .memoryPollMs) invocation.inputs.samplerIntervalMs
  sampleHeap : invocation.inputs.sampleHeap = sampler
  outputDir : invocation.outputDir = (values .outputDir).getD "results"

theorem IsInteger.unique {m n : Int} (hm : IsInteger text m) (hn : IsInteger text n) : m = n :=
  hm.1.unique hn.1

theorem IsIntegerOr.unique {default m n : Int} {value : Option String}
    (hm : IsIntegerOr default value m) (hn : IsIntegerOr default value n) : m = n := by
  cases hm with
  | absent =>
    cases hn
    rfl
  | given hm =>
    cases hn with
    | given hn => exact hm.unique hn

theorem rel_isInteger_unique {value : Option String} {m n : Option Int}
    (hm : Option.Rel IsInteger value m) (hn : Option.Rel IsInteger value n) : m = n := by
  cases hm with
  | none =>
    cases hn
    rfl
  | some hm =>
    cases hn with
    | some hn => exact congrArg some (hm.unique hn)

/-- Values and a last word on the sampler ask for one invocation. -/
theorem Configures.unique {profile : Profile} {values : Setting → Option String}
    {sampler : Option Bool} {i j : Invocation} (hi : Configures profile values sampler i)
    (hj : Configures profile values sampler j) : i = j := by
  have hinputs : i.inputs = j.inputs := by
    rw [Inputs.mk.injEq]
    exact ⟨hi.baseUrl.trans hj.baseUrl.symm, hi.itemsList.trans hj.itemsList.symm,
      rel_isInteger_unique hi.itemsStart hj.itemsStart,
      rel_isInteger_unique hi.itemsEnd hj.itemsEnd,
      rel_isInteger_unique hi.itemsStep hj.itemsStep, hi.modes.trans hj.modes.symm,
      hi.runs.unique hj.runs, hi.pollIntervalMs.unique hj.pollIntervalMs,
      hi.timeoutMs.unique hj.timeoutMs, hi.samplerIntervalMs.unique hj.samplerIntervalMs,
      hi.sampleHeap.trans hj.sampleHeap.symm⟩
  rw [Invocation.mk.injEq]
  exact ⟨hi.profile.trans hj.profile.symm, hinputs, hi.outputDir.trans hj.outputDir.symm⟩

section Lookups

variable {assignment : Assignment} {value : Option String}

theorem text?_of_get? (hkind : setting.kind ≠ .integer)
    (hadmits : ∀ text, value = some text → setting.Admits text)
    (hget : assignment.get? setting = value.bind setting.read?) :
    assignment.text? setting = value := by
  rw [Assignment.text?, hget]
  rcases value with _ | text
  · rfl
  · obtain ⟨v, hv⟩ := exists_read_iff.mpr (hadmits text rfl)
    rw [Option.bind_some, read?_of_read hv, Option.bind_some]
    rcases hk : setting.kind with _ | _ | _
    · rw [hk] at hv
      obtain rfl := Except.ok.inj hv
      rfl
    · exact absurd hk hkind
    · rw [hk, Value.read] at hv
      split at hv
      · cases hv
      · obtain rfl := Except.ok.inj hv
        rfl

theorem integer?_of_get? (hkind : setting.kind = .integer)
    (hadmits : ∀ text, value = some text → setting.Admits text)
    (hget : assignment.get? setting = value.bind setting.read?) :
    Option.Rel IsInteger value (assignment.integer? setting) := by
  rw [Assignment.integer?, hget]
  rcases value with _ | text
  · exact .none
  · have hint := hadmits text rfl
    rw [Setting.Admits, hkind] at hint
    obtain ⟨n, hn⟩ := hint
    have hread : Value.read setting.kind text = .ok (.integer n) := by
      rw [hkind, Value.read, Text.readInt64_eq_ok_iff.mpr hn]
    rw [Option.bind_some, read?_of_read hread]
    exact .some hn

theorem isIntegerOr_getD (default : Int) {o : Option Int} (h : Option.Rel IsInteger value o) :
    IsIntegerOr default value (o.getD default) := by
  cases h with
  | none => exact .absent
  | some h => exact .given h

end Lookups

namespace Split

variable {profile : Profile} {values : Setting → Option String} {x y : Split}
  {invocation : Invocation}

theorem sampleHeap_of_parse (h : x.parse profile = .ok invocation) :
    invocation.inputs.sampleHeap = (flags x.items).getLast? := by
  rw [CommandLine.sampleHeap_of_parse h, switches_profile, switches_items]

/-- An accepted split is an invocation with its values. -/
theorem Gives.configures (h : Gives values x) (hparse : x.parse profile = .ok invocation) :
    Configures profile values (flags x.items).getLast? invocation := by
  have hadmits := (h.exists_parse_iff.mp ⟨invocation, hparse⟩).1
  have hsampler := sampleHeap_of_parse hparse
  obtain ⟨p, assignment, hrun, henv, rfl⟩ := parse_eq_ok_iff.mp hparse
  have htext (s : Setting) (hkind : s.kind ≠ .integer) : assignment.text? s = values s :=
    text?_of_get? hkind (hadmits s) (h.get?_of_parse hrun henv s)
  have hinteger (s : Setting) (hkind : s.kind = .integer) :
      Option.Rel IsInteger (values s) (assignment.integer? s) :=
    integer?_of_get? hkind (hadmits s) (h.get?_of_parse hrun henv s)
  exact
    { profile := rfl
      baseUrl := congrArg (·.getD "http://localhost:8070") (htext .baseUrl nofun)
      itemsList := htext .itemsList nofun
      itemsStart := hinteger .itemsStart rfl
      itemsEnd := hinteger .itemsEnd rfl
      itemsStep := hinteger .itemsStep rfl
      modes := htext .modes nofun
      runs := isIntegerOr_getD _ (hinteger .runs rfl)
      pollIntervalMs := isIntegerOr_getD _ (hinteger .pollIntervalMs rfl)
      timeoutMs := isIntegerOr_getD _ (hinteger .timeoutMs rfl)
      samplerIntervalMs := isIntegerOr_getD _ (hinteger .memoryPollMs rfl)
      sampleHeap := hsampler
      outputDir := congrArg (·.getD "results") (htext .outputDir nofun) }

/--
**However the values are split between arguments and variables, the same benchmark is run.**  Two
splits of the same values that say the same about the sampler are both refused, or they are the same
invocation.  A split is accepted if each value is of its setting's kind and no flag stands twice
without the other one between.  Then a setting has the value that it is given, or else its default.
Whichever arguments give some of the values, variables can give the others.  In each command line
that is accepted the last of the two flags decides about the sampler.
-/
theorem splits_agree (profile : Profile) (values : Setting → Option String) :
    (∀ x y, Gives values x → Gives values y → flags x.items = flags y.items →
      ∀ invocation, x.parse profile = .ok invocation → y.parse profile = .ok invocation) ∧
    (∀ x, Gives values x →
      ((∃ invocation, x.parse profile = .ok invocation) ↔
        (∀ s text, values s = some text → s.Admits text) ∧
          (flags x.items).IsChain (· ≠ ·)) ∧
      ∀ invocation, x.parse profile = .ok invocation →
        Configures profile values (flags x.items).getLast? invocation) ∧
    (∀ items, ((given items).map Prod.fst).Nodup →
      (∀ pair ∈ given items, values pair.1 = some pair.2) →
        ∃ env, Gives values ⟨items, env⟩) ∧
    ∀ args env invocation, CommandLine.parse args env = .ok invocation →
      invocation.inputs.sampleHeap = (switches args).getLast? := by
  refine ⟨fun x y hx hy hflags i hparse => ?_,
    fun x hx => ⟨hx.exists_parse_iff, fun _ => hx.configures⟩,
    fun _ => exists_env, fun _ _ _ => CommandLine.sampleHeap_of_parse⟩
  have hlegal := hx.exists_parse_iff.mp ⟨i, hparse⟩
  rw [hflags] at hlegal
  obtain ⟨j, hj⟩ := hy.exists_parse_iff.mpr hlegal
  have hi := hx.configures hparse
  rw [hflags] at hi
  rwa [hi.unique (hy.configures hj)]

/-- Two runs, and a directory for the results. -/
def twiceOut : Setting → Option String
  | .runs => some "+2"
  | .outputDir => some "out"
  | _ => none

/-- The runs come first, and a variable names the directory. -/
def runsFirst : Split where
  items := [.value .runs "+2", .sampler false]
  env := fun name => if name = "OUTPUT_DIR" then some "out" else none

/-- The directory comes last, and its variable is empty. -/
def directoryLast : Split where
  items := [.sampler false, .value .outputDir "out"]
  env := fun name =>
    if name = "OUTPUT_DIR" then some "" else if name = "RUNS" then some "+2" else none

theorem gives_runsFirst : Gives twiceOut runsFirst where
  once := by decide
  arguments := List.forall_mem_singleton.mpr rfl
  environment := by
    intro s hs
    cases s with
    | runs => exact absurd List.mem_cons_self hs
    | _ => rfl

theorem gives_directoryLast : Gives twiceOut directoryLast where
  once := by decide
  arguments := List.forall_mem_singleton.mpr rfl
  environment := by
    intro s hs
    cases s with
    | outputDir => exact absurd List.mem_cons_self hs
    | _ => rfl

theorem isInteger_two : IsInteger "+2" 2 :=
  Text.readInt64_eq_ok_iff.mp rfl

theorem admits_twiceOut (s : Setting) (text : String) (h : twiceOut s = some text) :
    s.Admits text := by
  cases s with
  | runs =>
    obtain rfl := Option.some.inj h
    exact ⟨2, isInteger_two⟩
  | outputDir =>
    obtain rfl := Option.some.inj h
    show "out" ≠ ""
    decide
  | _ => cases h

theorem splits_agree_twiceOut :
    ∃ invocation, runsFirst.parse .memory = .ok invocation ∧
      directoryLast.parse .memory = .ok invocation ∧ invocation.inputs.runs = 2 ∧
      invocation.inputs.sampleHeap = some false ∧ invocation.outputDir = "out" := by
  obtain ⟨hagree, haccept, -, -⟩ := splits_agree .memory twiceOut
  obtain ⟨hlegal, hconfigures⟩ := haccept runsFirst gives_runsFirst
  obtain ⟨invocation, hparse⟩ := hlegal.mpr ⟨admits_twiceOut, .singleton false⟩
  have hinvocation := hconfigures invocation hparse
  exact ⟨invocation, hparse,
    hagree runsFirst directoryLast gives_runsFirst gives_directoryLast rfl invocation hparse,
    hinvocation.runs.unique (.given isInteger_two), hinvocation.sampleHeap,
    hinvocation.outputDir⟩

end Split

end QueueDrain.CommandLine
