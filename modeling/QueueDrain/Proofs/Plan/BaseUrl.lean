import QueueDrain.Proofs.Plan.Acceptance

/-!
The base address of a plan, and what becomes of it when it is resolved again.

Blanks are taken off the ends of a base address first and slashes off its end afterwards, each once.
That leaves no blank at the start and no slash at the end.  A blank may be left at the end, where
slashes kept it from being taken off (`BlankBeforeSlashes`): `baseUrl_isNormal_iff` says that this
is the only case in which the address of a plan is not in normal form, and the only case in which
resolving it again does not give the same plan.

Design notes: what is at the ends of a text is told by its first and last characters.  What makes a
text a web address is up to the reader of addresses, as long as the empty text is none.
-/

namespace QueueDrain.Plan

/-- The normal form of a base address: no blanks at its ends, and no slash at its end. -/
structure IsNormal (base : List Char) : Prop where
  head : ∀ c ∈ base.head?, ¬ Text.isBlank c
  last : ∀ c ∈ base.getLast?, ¬ Text.isBlank c
  slash : ∀ c ∈ base.getLast?, c ≠ '/'

/-- There are slashes at the end of a text, perhaps with blanks after them, and a blank before. -/
def BlankBeforeSlashes (raw : List Char) : Prop :=
  ∃ front blank slashes trail, raw = front ++ [blank] ++ slashes ++ trail ∧ Text.isBlank blank ∧
    slashes ≠ [] ∧ (∀ c ∈ slashes, c = '/') ∧ ∀ c ∈ trail, Text.isBlank c

theorem toList_trimBaseUrl (raw : String) :
    (trimBaseUrl raw).toList = Text.trimEndWhere (· == '/') (Text.trim raw.toList) := by
  rw [trimBaseUrl, String.toList_ofList]

theorem not_isBlank_head?_trimBaseUrl (raw : String) :
    ∀ c ∈ (trimBaseUrl raw).toList.head?, ¬ Text.isBlank c := by
  rw [toList_trimBaseUrl]
  exact fun c hc => Text.not_isBlank_head?_trim _ c (Text.mem_head?_of_trimEndWhere hc)

theorem ne_slash_getLast?_trimBaseUrl (raw : String) :
    ∀ c ∈ (trimBaseUrl raw).toList.getLast?, c ≠ '/' := by
  rw [toList_trimBaseUrl]
  rintro c hc rfl
  exact Text.getLast?_trimEndWhere _ _ hc rfl

/-- Trimming leaves a base address as it is if it is in normal form, and only then. -/
theorem trimBaseUrl_eq_self_iff {base : String} :
    trimBaseUrl base = base ↔ IsNormal base.toList := by
  rw [← String.toList_inj, toList_trimBaseUrl]
  constructor
  · intro h
    -- what is trimmed twice without a change was not changed in between
    have htrim : Text.trim base.toList = base.toList := by
      refine (Text.trim_sublist _).antisymm ?_
      conv => lhs; rw [← h]
      exact Text.trimEndWhere_sublist _
    refine ⟨?_, ?_, ?_⟩
    · rw [← htrim]
      exact Text.not_isBlank_head?_trim _
    · rw [← htrim]
      exact Text.getLast?_trimEndWhere _
    · rw [← h, ← toList_trimBaseUrl]
      exact ne_slash_getLast?_trimBaseUrl base
  · intro h
    rw [Text.trim_eq_self h.head h.last, Text.trimEndWhere_eq_self]
    intro c hc hslash
    exact h.slash c hc (beq_iff_eq.mp hslash)

/-- Where trimming leaves a blank at the end, slashes stood behind it. -/
theorem blankBeforeSlashes_of_isBlank {raw : String} {c : Char}
    (hc : c ∈ (trimBaseUrl raw).toList.getLast?) (hblank : Text.isBlank c) :
    BlankBeforeSlashes raw.toList := by
  rw [toList_trimBaseUrl] at hc
  obtain ⟨front, hbase⟩ := List.getLast?_eq_some_iff.mp (Option.mem_def.mp hc)
  obtain ⟨lead, hraw, -⟩ := Text.startTrimmed_iff.mpr
    (rfl : raw.toList.dropWhile Text.isBlank = raw.toList.dropWhile Text.isBlank)
  obtain ⟨trail, hcore, htrail, hlast⟩ := Text.endTrimmed_iff.mpr
    (rfl : Text.trim raw.toList = Text.trim raw.toList)
  obtain ⟨slashes, htrim, hslashes, -⟩ := Text.endTrimmed_iff.mpr
    (rfl : Text.trimEndWhere (· == '/') (Text.trim raw.toList) = Text.trimEndWhere _ _)
  refine ⟨lead ++ front, c, slashes, trail, ?_, hblank, ?_,
    fun d hd => beq_iff_eq.mp (hslashes d hd), htrail⟩
  · rw [hraw, hcore, htrim, hbase]
    simp only [List.append_assoc]
  · -- without a slash the blank would have been taken off
    rintro rfl
    rw [htrim, List.append_nil] at hlast
    exact hlast c hc hblank

/-- Slashes keep the blank before them from being taken off. -/
theorem exists_isBlank_of_blankBeforeSlashes {raw : String}
    (h : BlankBeforeSlashes raw.toList) (hne : (trimBaseUrl raw).toList ≠ []) :
    ∃ c ∈ (trimBaseUrl raw).toList.getLast?, Text.isBlank c := by
  obtain ⟨front, blank, slashes, trail, hraw, hblank, hsome, hslashes, htrail⟩ := h
  have hbare : ∀ c ∈ slashes, ¬ Text.isBlank c := by
    intro c hc
    rw [hslashes c hc]
    decide
  have hbarest : ∀ c ∈ (slashes ++ trail).head?, ¬ Text.isBlank c := by
    intro c hc
    rw [List.head?_append_of_ne_nil _ hsome] at hc
    exact hbare c (List.mem_of_mem_head? hc)
  -- what is left of the text before the slashes
  let rest := (front ++ [blank]).dropWhile Text.isBlank
  have htrim : Text.trim raw.toList = rest ++ slashes := by
    rw [Text.trim, hraw, List.append_assoc _ slashes, Text.dropWhile_append_of_head hbarest,
      ← List.append_assoc, Text.trimEndWhere_append_of_all htrail]
    refine Text.trimEndWhere_eq_self fun c hc => hbare c ?_
    rw [List.getLast?_append_of_ne_nil _ hsome] at hc
    exact List.mem_of_mem_getLast? hc
  have hbase : (trimBaseUrl raw).toList = Text.trimEndWhere (· == '/') rest := by
    rw [toList_trimBaseUrl, htrim, Text.trimEndWhere_append_of_all]
    exact fun c hc => beq_iff_eq.mpr (hslashes c hc)
  have hrest : rest ≠ [] := by
    intro hnil
    rw [hbase, hnil] at hne
    exact hne rfl
  have hlast : rest.getLast? = some blank := by
    rw [Text.getLast?_dropWhile hrest, List.getLast?_append_of_ne_nil _ (List.cons_ne_nil _ _)]
    rfl
  refine ⟨blank, ?_, hblank⟩
  rw [hbase, Text.trimEndWhere_eq_self, Option.mem_def, hlast]
  intro c hc hslash
  obtain rfl : c = blank := Option.some.inj (hc.symm.trans hlast)
  rw [beq_iff_eq.mp hslash] at hblank
  exact absurd hblank (by decide)

variable {urls : Url.Readers}

theorem resolveBaseUrl_eq_ok_iff {raw base : String} :
    resolveBaseUrl urls raw = .ok base ↔ base = trimBaseUrl raw ∧ urls.isWeb base := by
  rw [resolveBaseUrl]
  by_cases h : urls.isWeb (trimBaseUrl raw)
  · rw [if_pos h, Except.ok.injEq]
    constructor
    · rintro rfl
      exact ⟨rfl, h⟩
    · rintro ⟨rfl, -⟩
      rfl
  · rw [if_neg h]
    constructor
    · rintro ⟨⟩
    · rintro ⟨rfl, haddress⟩
      exact absurd haddress h

variable {profile : Profile} {inputs : Inputs} {plan : Plan}

/-- Where the empty text is no address, no plan has an empty base address. -/
theorem baseUrl_ne_empty (hempty : urls.scheme? "" = none)
    (hplan : resolve urls profile inputs = .ok plan) : plan.baseUrl ≠ "" := by
  intro hnone
  obtain ⟨-, haddress⟩ := resolveBaseUrl_eq_ok_iff.mp (comes_of_resolve_eq_ok hplan).baseUrl
  rw [hnone, Url.Readers.isWeb, hempty] at haddress
  cases haddress

/-- With another base address the same plan results if that address resolves to that of the plan. -/
theorem resolve_baseUrl_iff (hplan : resolve urls profile inputs = .ok plan) (raw : String) :
    resolve urls profile { inputs with baseUrl := raw } = .ok plan ↔
      resolveBaseUrl urls raw = .ok plan.baseUrl := by
  constructor
  · exact fun h => (comes_of_resolve_eq_ok h).baseUrl
  · intro h
    rw [← hplan, resolve, resolve, h, (comes_of_resolve_eq_ok hplan).baseUrl]
    rfl

/-- **The base address of a plan begins without a blank and ends without a slash**, and it is in
normal form unless slashes kept a blank before them from being taken off.  In that case, and in no
other, resolving the address again does not give the same plan. -/
theorem baseUrl_isNormal_iff (hempty : urls.scheme? "" = none)
    (hplan : resolve urls profile inputs = .ok plan) :
    (∀ c ∈ plan.baseUrl.toList.head?, ¬ Text.isBlank c) ∧
      (∀ c ∈ plan.baseUrl.toList.getLast?, c ≠ '/') ∧
      (IsNormal plan.baseUrl.toList ↔ ¬ BlankBeforeSlashes inputs.baseUrl.toList) ∧
      (resolve urls profile { inputs with baseUrl := plan.baseUrl } = .ok plan ↔
        ¬ BlankBeforeSlashes inputs.baseUrl.toList) := by
  obtain ⟨hbase, haddress⟩ := resolveBaseUrl_eq_ok_iff.mp (comes_of_resolve_eq_ok hplan).baseUrl
  have hhead := not_isBlank_head?_trimBaseUrl inputs.baseUrl
  have hslash := ne_slash_getLast?_trimBaseUrl inputs.baseUrl
  rw [← hbase] at hhead hslash
  have hne : plan.baseUrl.toList ≠ [] := by
    intro hnil
    exact baseUrl_ne_empty hempty hplan (String.toList_inj.mp hnil)
  have hnormal : IsNormal plan.baseUrl.toList ↔ ¬ BlankBeforeSlashes inputs.baseUrl.toList := by
    constructor
    · intro h hraw
      obtain ⟨c, hc, hblank⟩ := exists_isBlank_of_blankBeforeSlashes hraw (hbase ▸ hne)
      rw [← hbase] at hc
      exact h.last c hc hblank
    · intro h
      refine ⟨hhead, fun c hc hblank => h ?_, hslash⟩
      rw [hbase] at hc
      exact blankBeforeSlashes_of_isBlank hc hblank
  refine ⟨hhead, hslash, hnormal, ?_⟩
  rw [resolve_baseUrl_iff hplan, resolveBaseUrl_eq_ok_iff, ← hnormal, ← trimBaseUrl_eq_self_iff]
  exact ⟨fun h => h.1.symm, fun h => ⟨h.symm, haddress⟩⟩

/-- Settings with a blank between two slashes at the end of the base address. -/
def hollowInputs : Inputs :=
  { baseUrl := "http://lab/ /", itemsList := some "1", modes := some "sync", runs := 1 }

/-- The plan of these settings: the blank is at the end of its base address. -/
def hollowPlan : Plan := { single with baseUrl := "http://lab/ " }

theorem resolve_hollowInputs : resolve Url.standard .flow hollowInputs = .ok hollowPlan := by
  have haddress : Url.standard.isWeb hollowPlan.baseUrl := by decide +kernel
  have hbase : resolveBaseUrl Url.standard hollowInputs.baseUrl = .ok hollowPlan.baseUrl :=
    resolveBaseUrl_eq_ok_iff.mpr ⟨by decide, haddress⟩
  rw [resolve, hbase]
  rfl

/-- The address of that plan does not resolve to itself. -/
theorem resolve_hollowPlan :
    Url.standard.scheme? "" = none ∧
      resolve Url.standard .flow hollowInputs = .ok hollowPlan ∧
      resolve Url.standard .flow { hollowInputs with baseUrl := hollowPlan.baseUrl } ≠
        .ok hollowPlan := by
  have hempty : Url.standard.scheme? "" = none := by decide
  refine ⟨hempty, resolve_hollowInputs, fun h => ?_⟩
  refine (baseUrl_isNormal_iff hempty resolve_hollowInputs).2.2.2.mp h ?_
  exact ⟨"http://lab/".toList, ' ', ['/'], [], by decide, by decide, by decide,
    List.forall_mem_singleton.mpr rfl, nofun⟩

/-- Not all plans have a base address in normal form that resolves to itself. -/
theorem not_forall_isNormal :
    ¬ ∀ (profile : Profile) (inputs : Inputs) (plan : Plan),
      resolve Url.standard profile inputs = .ok plan →
        IsNormal plan.baseUrl.toList ∧
          resolve Url.standard profile { inputs with baseUrl := plan.baseUrl } = .ok plan := by
  intro h
  have hnormal := (h .flow hollowInputs hollowPlan resolve_hollowInputs).1
  exact hnormal.last ' ' (by decide) (by decide)

end QueueDrain.Plan
