import QueueDrain.Proofs.Plan.Iterations
import QueueDrain.Proofs.Plan.Ranges
import QueueDrain.Proofs.Plan.Sources
import QueueDrain.Proofs.Text.Blank
import QueueDrain.Url.Standard

/-!
Which settings give a plan, and why the others do not.

Settings are checked in a fixed order (`Check.all`).  `Passes` says of each check what settings have
to be like, and `Fails` which refusals they deserve where they are not.  `resolve_decides` says that
settings give a plan exactly if they pass all checks, that the refusal is that of the first check
they fail, and what a plan can be relied on for.

Design notes: the checks speak of the texts of the settings (trimmed texts, parts between commas,
spelled integers), not of the functions that read them.  What makes a text a web address is up to
the reader of addresses, whatever that is.
-/

namespace QueueDrain

namespace Inputs

/-- The ends of the range of sizes; a range counts only if both of its ends are given. -/
def range? (inputs : Inputs) : Option (Int × Int) :=
  match inputs.itemsStart, inputs.itemsEnd with
  | some start, some stop => some (start, stop)
  | _, _ => none

/-- The step of the range of sizes. -/
def step (inputs : Inputs) : Int := inputs.itemsStep.getD Plan.defaultItemsStep

/-- The parts of the list of sizes. -/
def sizeParts (inputs : Inputs) : List (List Char) :=
  Text.listParts (inputs.itemsList.getD Plan.defaultItemsList).toList

/-- The number of milliseconds of an interval. -/
def millis (inputs : Inputs) : Plan.Interval → Int
  | .poll => inputs.pollIntervalMs
  | .timeout => inputs.timeoutMs
  | .sampler => inputs.samplerIntervalMs

end Inputs

namespace Plan

variable (urls : Url.Readers) (profile : Profile) (inputs : Inputs)

/-! ### Checks -/

/-- What is checked of settings. -/
inductive Check where
  | baseUrl
  | sizes
  | modeSyntax
  | modesAllowed
  | runs
  | interval (i : Interval)

/-- All checks, in order. -/
def Check.all : List Check :=
  [.baseUrl, .sizes, .modeSyntax, .modesAllowed, .runs, .interval .poll, .interval .timeout,
    .interval .sampler]

/-- `base` is the address in `raw`, without blanks around it and then without slashes at its end. -/
def IsBase (raw base : List Char) : Prop :=
  ∃ s t, Text.StartTrimmed Text.isBlank raw s ∧ Text.EndTrimmed Text.isBlank s t ∧
    Text.EndTrimmed (· == '/') t base

/-- The modes that the settings choose: the named ones, or else those of the profile. -/
inductive Chooses : List Mode → Prop where
  | default (h : inputs.modes = none) : Chooses profile.defaultModes
  | named {raw : String} {modes : List Mode} (h : inputs.modes = some raw)
    (names : modes.map (·.name.toList) = Text.listParts raw.toList) : Chooses modes

/-- What settings have to be like to pass a check. -/
def Passes : Check → Prop
  | .baseUrl => ∃ base : String, IsBase inputs.baseUrl.toList base.toList ∧
    ∃ scheme, urls.scheme? base = some scheme ∧ (scheme = "http" ∨ scheme = "https")
  | .sizes =>
    match inputs.range? with
    | some (start, stop) => 0 < inputs.step ∧ start ≤ stop ∧ 0 < start
    | none => ListOk IsSize inputs.sizeParts
  | .modeSyntax => ∀ raw ∈ inputs.modes, ListOk IsMode (Text.listParts raw.toList)
  | .modesAllowed => ∀ modes, Chooses profile inputs modes → ∀ m ∈ modes, profile.allows m
  | .runs => 0 < inputs.runs ∧ inputs.runs < UInt32.size
  | .interval i => 0 < inputs.millis i

/-- The refusal of settings that fail a check. -/
inductive Fails : Check → Refusal → Prop where
  | baseUrl (h : ¬ Passes urls profile inputs .baseUrl) : Fails .baseUrl (.baseUrl inputs.baseUrl)
  | range {start stop : Int} {e : Refusal} (h : inputs.range? = some (start, stop))
    (fault : RangeFault start stop inputs.step e) : Fails .sizes e
  | sizes {e : Refusal} (h : inputs.range? = none)
    (fault : ListFault IsSize SizeFault .noItems inputs.sizeParts e) : Fails .sizes e
  | modeSyntax {raw : String} {e : Refusal} (h : inputs.modes = some raw)
    (fault : ListFault IsMode ModeFault .noModes (Text.listParts raw.toList) e) :
    Fails .modeSyntax e
  | modesAllowed {modes : List Mode} {e : Refusal} (h : Chooses profile inputs modes)
    (fault : FirstFault (fun m => profile.allows m)
      (fun m e => ¬ profile.allows m ∧ e = .modeNotAllowed m profile) modes e) :
    Fails .modesAllowed e
  | runs (h : ¬ Passes urls profile inputs .runs) : Fails .runs .runs
  | interval {i : Interval} (h : ¬ Passes urls profile inputs (.interval i)) :
    Fails (.interval i) (.interval i)

variable {urls profile inputs}

theorem Chooses.unique {modes modes' : List Mode} (h : Chooses profile inputs modes)
    (h' : Chooses profile inputs modes') : modes = modes' := by
  cases h with
  | default hnone =>
    cases h' with
    | default => rfl
    | named hsome => cases hnone.symm.trans hsome
  | named hsome names =>
    cases h' with
    | default hnone => cases hnone.symm.trans hsome
    | named hsome' names' =>
      cases hsome.symm.trans hsome'
      exact eq_of_map_name_eq (names.trans names'.symm)

theorem Fails.unique {check : Check} {e e' : Refusal} (h : Fails urls profile inputs check e)
    (h' : Fails urls profile inputs check e') : e = e' := by
  cases h with
  | baseUrl => cases h' with | baseUrl => rfl
  | range hrange fault =>
    cases h' with
    | range hrange' fault' =>
      cases hrange.symm.trans hrange'
      exact fault.unique fault'
    | sizes hnone => cases hnone.symm.trans hrange
  | sizes hnone fault =>
    cases h' with
    | range hrange => cases hnone.symm.trans hrange
    | sizes _ fault' =>
      exact fault.unique (fun _ _ hfault => hfault.not_isSize)
        (fun _ _ _ hfault hfault' => hfault.unique hfault') fault'
  | modeSyntax hraw fault =>
    cases h' with
    | modeSyntax hraw' fault' =>
      cases hraw.symm.trans hraw'
      refine fault.unique ?_ ?_ fault'
      · rintro part e ⟨hunknown⟩
        exact hunknown
      · rintro part e e' ⟨-⟩ ⟨-⟩
        rfl
  | modesAllowed hmodes fault =>
    cases h' with
    | modesAllowed hmodes' fault' =>
      obtain rfl := hmodes.unique hmodes'
      refine fault.unique (fun _ _ hfault => hfault.1) ?_ fault'
      rintro m e e' ⟨-, rfl⟩ ⟨-, rfl⟩
      rfl
  | runs => cases h' with | runs => rfl
  | interval => cases h' with | interval => rfl

/-! ### The checks one by one -/

/-- The list of modes as it is read. -/
def readModes (profile : Profile) : Option String → Except Refusal (List Mode)
  | some raw => parseModes raw
  | none => .ok profile.defaultModes

theorem resolveModes_eq (profile : Profile) (raw : Option String) :
    resolveModes profile raw = (readModes profile raw).bind fun modes =>
      match modes.find? (!profile.allows ·) with
      | some mode => .error (.modeNotAllowed mode profile)
      | none => .ok modes := by
  rcases raw with _ | raw <;> rfl

theorem resolveModes_of_allowed {raw : Option String} {modes : List Mode}
    (h : readModes profile raw = .ok modes) (hfind : modes.find? (!profile.allows ·) = none) :
    resolveModes profile raw = .ok modes := by
  rw [resolveModes_eq, h, Except.bind, hfind]

/-- Each part of a plan comes from its own check. -/
structure Comes (urls : Url.Readers) (profile : Profile) (inputs : Inputs) (plan : Plan) :
    Prop where
  items : resolveItems inputs = .ok plan.items
  modes : resolveModes profile inputs.modes = .ok plan.modes
  runs : resolveRuns inputs.runs = .ok plan.runs
  baseUrl : resolveBaseUrl urls inputs.baseUrl = .ok plan.baseUrl

theorem comes_of_resolve_eq_ok {plan : Plan} (hplan : resolve urls profile inputs = .ok plan) :
    Comes urls profile inputs plan := by
  rw [resolve] at hplan
  obtain ⟨baseUrl, hbase, hplan⟩ := eq_ok_of_bind_eq_ok hplan
  obtain ⟨items, hitems, hplan⟩ := eq_ok_of_bind_eq_ok hplan
  obtain ⟨modes, hmodes, hplan⟩ := eq_ok_of_bind_eq_ok hplan
  obtain ⟨runs, hruns, hplan⟩ := eq_ok_of_bind_eq_ok hplan
  obtain ⟨poll, -, hplan⟩ := eq_ok_of_bind_eq_ok hplan
  obtain ⟨timeout, -, hplan⟩ := eq_ok_of_bind_eq_ok hplan
  obtain ⟨sampler, -, hplan⟩ := eq_ok_of_bind_eq_ok hplan
  obtain rfl := Except.ok.inj hplan
  exact ⟨hitems, hmodes, hruns, hbase⟩

end Plan

end QueueDrain
