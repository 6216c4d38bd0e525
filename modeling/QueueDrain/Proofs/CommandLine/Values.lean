import Mathlib.Data.List.Basic
import QueueDrain.Proofs.CommandLine.Arguments
import QueueDrain.Proofs.Text.Integer

/-!
Values of settings, from arguments and from the environment.

Items are the arguments that need no other argument to be understood: a flag with its value behind
an equals sign, and the two flags of the sampler.  A run of items is a fold (`Progress.run_items`).
It is told by when it succeeds (`Progress.exists_foldlM_iff`) and by what is looked up in the
assignment afterwards (`Progress.get?_of_foldlM`), and so is the reading of the environment.

Design notes: the two lookups have the same form, what was there before or else what is new.  So the
order in which values come does not count.
-/

namespace QueueDrain.CommandLine

/-! ### Values -/

/-- A text is an integer of 64 bits. -/
def IsInteger (text : String) (n : Int) : Prop :=
  Text.SpellsInteger text.toList n ∧ -(Text.int64Limit : Int) ≤ n ∧ n < Text.int64Limit

/-- A setting can have this text as its value. -/
def Setting.Admits (setting : Setting) (text : String) : Prop :=
  match setting.kind with
  | .text => True
  | .path => text ≠ ""
  | .integer => ∃ n, IsInteger text n

/-- The value that a text gives to a setting. -/
def Setting.read? (setting : Setting) (text : String) : Option Value :=
  (Value.read setting.kind text).toOption

variable {setting : Setting} {text : String}

theorem readInt64_cases (text : String) :
    (∃ n, Text.readInt64 text.toList = .ok n ∧ IsInteger text n) ∨
      ∃ e, Text.readInt64 text.toList = .error e ∧ ∀ n, ¬ IsInteger text n := by
  rcases h : Text.readInt64 text.toList with e | n
  · refine Or.inr ⟨e, rfl, fun n hn => ?_⟩
    cases h.symm.trans (Text.readInt64_eq_ok_iff.mpr hn)
  · exact Or.inl ⟨n, rfl, Text.readInt64_eq_ok_iff.mp h⟩

theorem exists_read_iff : (∃ v, Value.read setting.kind text = .ok v) ↔ setting.Admits text := by
  rw [Setting.Admits]
  rcases setting.kind with _ | _ | _
  · exact ⟨fun _ => trivial, fun _ => ⟨.text text, rfl⟩⟩
  · rcases readInt64_cases text with ⟨n, hread, hn⟩ | ⟨e, hread, hnone⟩
    · simp only [Value.read, hread]
      exact ⟨fun _ => ⟨n, hn⟩, fun _ => ⟨.integer n, rfl⟩⟩
    · simp only [Value.read, hread]
      constructor
      · rintro ⟨v, ⟨⟩⟩
      · rintro ⟨n, hn⟩
        exact absurd hn (hnone n)
  · by_cases h : text = ""
    · simp [Value.read, h]
    · simp [Value.read, h]

theorem read?_of_read {v : Value} (h : Value.read setting.kind text = .ok v) :
    setting.read? text = some v := by
  rw [Setting.read?, h]
  rfl

theorem Assignment.get?_append_single (assignment : Assignment) (s setting : Setting) (v : Value) :
    Assignment.get? (assignment ++ [(setting, v)]) s =
      (assignment.get? s).or (if s = setting then some v else none) := by
  rw [Assignment.get?, List.lookup_append, Assignment.get?, List.lookup_cons, List.lookup_nil]
  by_cases h : s = setting
  · rw [beq_iff_eq.mpr h, if_pos h]
  · rw [beq_eq_false_iff_ne.mpr h, if_neg h]

/-! ### Arguments that give values -/

/-- An argument that gives a value with an equals sign, or turns the sampler on or off. -/
inductive Item where
  | value (setting : Setting) (text : String)
  | sampler (on : Bool)

def Item.argument : Item → String
  | .value setting text => "--" ++ setting.flag ++ "=" ++ text
  | .sampler true => "--sampler"
  | .sampler false => "--no-sampler"

/-- The values that are given, in order. -/
def given : List Item → List (Setting × String)
  | [] => []
  | .value setting text :: items => (setting, text) :: given items
  | .sampler _ :: items => given items

/-- What is said about the sampler, in order. -/
def flags : List Item → List Bool
  | [] => []
  | .value .. :: items => flags items
  | .sampler on :: items => on :: flags items

theorem flag_bare (setting : Setting) :
    setting.flag.toList ≠ [] ∧ setting.flag.toList.all (· != '=') := by
  cases setting <;> decide

theorem ofFlag?_flag (setting : Setting) : Setting.ofFlag? setting.flag = some setting := by
  cases setting <;> rfl

theorem switches_items (items : List Item) : switches (items.map Item.argument) = flags items := by
  induction items with
  | nil => rfl
  | cons item items ih =>
    rw [List.map_cons, switches, List.filterMap_cons, ← switches, ih]
    cases item with
    | value setting text =>
      have harg := Argument.of_assignment (flag_bare setting).1 (flag_bare setting).2 text
      have hnone : switch? (Item.argument (.value setting text)) = none :=
        switch?_eq_none fun name hname => by cases harg.symm.trans hname
      rw [hnone, flags]
    | sampler on => cases on <;> rfl

/-- What an argument does to what has been collected. -/
def Item.act (p : Progress) : Item → Except Usage Progress
  | .value setting text => p.assign setting text
  | .sampler on => p.setSampler on

namespace Progress

variable {p q : Progress} {items : List Item}

theorem pending_act {item : Item} (h : item.act p = .ok q) : q.pending = p.pending := by
  cases item with
  | value setting text =>
    obtain ⟨-, v, -, rfl⟩ := assign_eq_ok_iff.mp h
    rfl
  | sampler on =>
    obtain ⟨-, rfl⟩ := setSampler_eq_ok_iff.mp h
    rfl

theorem settle_of_pending (h : p.pending = none) : p.settle = .ok p := by
  rw [settle, h]

/-- A run of such an argument is one step. -/
theorem run_item (h : p.pending = none) (item : Item) (args : List String) :
    p.run (item.argument :: args) = item.act p >>= (·.run args) := by
  have hsettle := settle_of_pending h
  cases item with
  | value setting text =>
    have harg : Argument.of (Item.argument (.value setting text)) =
        .long setting.flag (some text) :=
      Argument.of_assignment (flag_bare setting).1 (flag_bare setting).2 text
    rw [run, harg]
    dsimp only
    rw [long_assigned (ofFlag?_flag setting), hsettle]
    rfl
  | sampler on =>
    cases on with
    | true =>
      have harg : Argument.of "--sampler" = .long "sampler" none :=
        Argument.of_name "sampler" (by decide) (by decide)
      rw [Item.argument, run, harg]
      dsimp only
      rw [long_sampler, hsettle]
      rfl
    | false =>
      have harg : Argument.of "--no-sampler" = .long "no-sampler" none :=
        Argument.of_name "no-sampler" (by decide) (by decide)
      rw [Item.argument, run, harg]
      dsimp only
      rw [long_no_sampler, hsettle]
      rfl

theorem run_items (h : p.pending = none) :
    p.run (items.map Item.argument) = items.foldlM Item.act p := by
  induction items generalizing p with
  | nil => exact settle_of_pending h
  | cons item items ih =>
    rw [List.map_cons, run_item h, List.foldlM_cons]
    rcases hact : item.act p with e | p'
    · rfl
    · exact ih ((pending_act hact).trans h)

/-! ### What a run finds -/

/-- When items can be taken after what has been collected. -/
structure Takes (p : Progress) (items : List Item) : Prop where
  fresh : ∀ pair ∈ given items, p.assignment.get? pair.1 = none
  once : ((given items).map Prod.fst).Nodup
  admits : ∀ pair ∈ given items, pair.1.Admits pair.2
  alternates : (p.sampler.toList ++ flags items).IsChain (· ≠ ·)

theorem takes_value_iff (v : Value) :
    p.Takes (.value setting text :: items) ↔
      p.assignment.get? setting = none ∧ setting.Admits text ∧ (p.add setting v).Takes items := by
  constructor
  · rintro ⟨hfresh, honce, hadmits, halternates⟩
    rw [given, List.forall_mem_cons] at hfresh hadmits
    rw [given, List.map_cons, List.nodup_cons] at honce
    refine ⟨hfresh.1, hadmits.1, fun pair hpair => ?_, honce.2, hadmits.2, halternates⟩
    have hne : pair.1 ≠ setting := fun heq =>
      honce.1 (List.mem_map.mpr ⟨pair, hpair, heq⟩)
    rw [add, Assignment.get?_append_single, hfresh.2 pair hpair, if_neg hne]
    rfl
  · rintro ⟨hnone, hadmits, hfresh, honce, hrest, halternates⟩
    have hboth : ∀ pair ∈ given items, p.assignment.get? pair.1 = none ∧ pair.1 ≠ setting := by
      intro pair hpair
      have h := hfresh pair hpair
      rw [add, Assignment.get?_append_single, Option.or_eq_none_iff] at h
      refine ⟨h.1, fun heq => ?_⟩
      rw [if_pos heq] at h
      cases h.2
    refine ⟨?_, ?_, ?_, halternates⟩
    · rw [given, List.forall_mem_cons]
      exact ⟨hnone, fun pair hpair => (hboth pair hpair).1⟩
    · rw [given, List.map_cons, List.nodup_cons]
      refine ⟨fun hmem => ?_, honce⟩
      obtain ⟨pair, hpair, heq⟩ := List.mem_map.mp hmem
      exact (hboth pair hpair).2 heq
    · rw [given, List.forall_mem_cons]
      exact ⟨hadmits, hrest⟩

theorem takes_sampler_iff {on : Bool} :
    p.Takes (.sampler on :: items) ↔
      p.sampler ≠ some on ∧ Takes { p with sampler := some on } items := by
  have hchain : (p.sampler.toList ++ flags (.sampler on :: items)).IsChain (· ≠ ·) ↔
      p.sampler ≠ some on ∧ ((some on).toList ++ flags items).IsChain (· ≠ ·) := by
    rcases p.sampler with _ | last
    · simp [flags]
    · show (last :: on :: flags items).IsChain (· ≠ ·) ↔ _
      rw [List.isChain_cons_cons, ne_eq, ne_eq, Option.some.injEq]
      rfl
  constructor
  · rintro ⟨hfresh, honce, hadmits, halternates⟩
    obtain ⟨hne, hrest⟩ := hchain.mp halternates
    exact ⟨hne, hfresh, honce, hadmits, hrest⟩
  · rintro ⟨hne, hfresh, honce, hadmits, hrest⟩
    exact ⟨hfresh, honce, hadmits, hchain.mpr ⟨hne, hrest⟩⟩

/-- A run of items succeeds if they can be taken. -/
theorem exists_foldlM_iff : (∃ q, items.foldlM Item.act p = .ok q) ↔ p.Takes items := by
  induction items generalizing p with
  | nil =>
    refine ⟨fun _ => ⟨nofun, List.nodup_nil, nofun, ?_⟩, fun _ => ⟨p, rfl⟩⟩
    rcases p.sampler with _ | on
    · exact .nil
    · exact .singleton on
  | cons item items ih =>
    rw [List.foldlM_cons]
    cases item with
    | value setting text =>
      constructor
      · rintro ⟨q, h⟩
        obtain ⟨p', hact, h⟩ := eq_ok_of_bind_eq_ok h
        obtain ⟨hnone, v, hv, rfl⟩ := assign_eq_ok_iff.mp hact
        exact (takes_value_iff v).mpr ⟨hnone, exists_read_iff.mp ⟨v, hv⟩, ih.mp ⟨q, h⟩⟩
      · intro h
        obtain ⟨v, hv⟩ := exists_read_iff.mpr (h.admits _ List.mem_cons_self)
        obtain ⟨hnone, -, hrest⟩ := (takes_value_iff v).mp h
        have hact : Item.act p (.value setting text) = .ok (p.add setting v) :=
          assign_eq_ok_iff.mpr ⟨hnone, v, hv, rfl⟩
        rw [hact]
        exact ih.mpr hrest
    | sampler on =>
      constructor
      · rintro ⟨q, h⟩
        obtain ⟨p', hact, h⟩ := eq_ok_of_bind_eq_ok h
        obtain ⟨hne, rfl⟩ := setSampler_eq_ok_iff.mp hact
        exact takes_sampler_iff.mpr ⟨hne, ih.mp ⟨q, h⟩⟩
      · intro h
        obtain ⟨hne, hrest⟩ := takes_sampler_iff.mp h
        have hact : Item.act p (.sampler on) = .ok { p with sampler := some on } :=
          setSampler_eq_ok_iff.mpr ⟨hne, rfl⟩
        rw [hact]
        exact ih.mpr hrest

/-- What is looked up after a run was there before, or an item has given it. -/
theorem get?_of_foldlM (h : items.foldlM Item.act p = .ok q) (s : Setting) :
    q.assignment.get? s = (p.assignment.get? s).or (((given items).lookup s).bind s.read?) := by
  induction items generalizing p with
  | nil =>
    obtain rfl := Except.ok.inj h
    exact Option.or_none.symm
  | cons item items ih =>
    rw [List.foldlM_cons] at h
    obtain ⟨p', hact, h⟩ := eq_ok_of_bind_eq_ok h
    cases item with
    | value setting text =>
      obtain ⟨-, v, hv, rfl⟩ := assign_eq_ok_iff.mp hact
      rw [ih h, add, Assignment.get?_append_single, Option.or_assoc, given, List.lookup_cons]
      by_cases hs : s = setting
      · subst hs
        rw [if_pos rfl, beq_self_eq_true s, Option.some_or]
        exact congrArg _ (read?_of_read hv).symm
      · rw [if_neg hs, beq_eq_false_iff_ne.mpr hs, Option.none_or]
    | sampler on =>
      obtain ⟨-, rfl⟩ := setSampler_eq_ok_iff.mp hact
      have hrest := ih h
      exact hrest

end Progress

/-! ### The environment -/

section Environment

variable {env : String → Option String} {assignment b : Assignment} {settings : List Setting}

/-- The environment is read without a fault if the settings that are left open can have the values
of their variables. -/
theorem exists_fromEnvironment_iff :
    (∃ b, fromEnvironment env assignment settings = .ok b) ↔
      ∀ s ∈ settings, assignment.get? s = none →
        ∀ text, env s.variableName = some text → s.Admits text := by
  induction settings generalizing assignment with
  | nil => exact ⟨fun _ => nofun, fun _ => ⟨assignment, rfl⟩⟩
  | cons setting settings ih =>
    rw [fromEnvironment, List.forall_mem_cons]
    rcases hget : assignment.get? setting with _ | v
    · rcases henv : env setting.variableName with _ | text
      · rw [ih]
        exact ⟨fun h => ⟨nofun, h⟩, fun h => h.2⟩
      · have hnew (v : Value) (s : Setting) :
            Assignment.get? (assignment ++ [(setting, v)]) s = none ↔
              assignment.get? s = none ∧ s ≠ setting := by
          rw [Assignment.get?_append_single, Option.or_eq_none_iff]
          by_cases hs : s = setting <;> simp [hs]
        constructor
        · rintro ⟨b, h⟩
          obtain ⟨v, hv, h⟩ := eq_ok_of_bind_eq_ok h
          have hadmits := exists_read_iff.mp ⟨v, hv⟩
          refine ⟨fun _ t ht => Option.some.inj ht ▸ hadmits, fun s hs hnone t ht => ?_⟩
          by_cases heq : s = setting
          · subst heq
            exact Option.some.inj (henv.symm.trans ht) ▸ hadmits
          · exact ih.mp ⟨b, h⟩ s hs ((hnew v s).mpr ⟨hnone, heq⟩) t ht
        · rintro ⟨hadmits, hrest⟩
          obtain ⟨v, hv⟩ := exists_read_iff.mpr (hadmits rfl text rfl)
          dsimp only
          rw [hv]
          exact ih.mpr fun s hs hnone => hrest s hs ((hnew v s).mp hnone).1
    · rw [ih]
      exact ⟨fun h => ⟨nofun, h⟩, fun h => h.2⟩

/-- What is looked up after the environment has been read was there before, or a variable has given
it. -/
theorem get?_of_fromEnvironment (h : fromEnvironment env assignment settings = .ok b)
    (s : Setting) :
    b.get? s = (assignment.get? s).or
      (if s ∈ settings then (env s.variableName).bind s.read? else none) := by
  induction settings generalizing assignment with
  | nil =>
    obtain rfl := Except.ok.inj h
    exact Option.or_none.symm
  | cons setting settings ih =>
    rw [fromEnvironment] at h
    by_cases hs : s = setting
    · subst hs
      rw [if_pos List.mem_cons_self]
      rcases hget : assignment.get? s with _ | v
      · rcases henv : env s.variableName with _ | text
        · rw [hget, henv] at h
          rw [ih h, hget, henv, Option.bind_none, ite_self]
        · rw [hget, henv] at h
          obtain ⟨v, hv, h⟩ := eq_ok_of_bind_eq_ok h
          rw [ih h, Assignment.get?_append_single, hget, if_pos rfl, Option.none_or, Option.some_or]
          exact (read?_of_read hv).symm
      · rw [hget] at h
        rw [ih h, hget, Option.some_or, Option.some_or]
    · have hmem : s ∈ setting :: settings ↔ s ∈ settings := by
        rw [List.mem_cons, or_iff_right hs]
      simp only [hmem]
      split at h
      · obtain ⟨v, -, h⟩ := eq_ok_of_bind_eq_ok h
        rw [ih h, Assignment.get?_append_single, if_neg hs, Option.or_none]
      · exact ih h

end Environment

end QueueDrain.CommandLine
