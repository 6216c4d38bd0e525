import Mathlib.Logic.ExistsUnique
import QueueDrain.Proofs.Plan.BaseUrl
import QueueDrain.Proofs.Plan.SizeList

/-!
The iterations of a plan as the places of a matrix.

A place of a plan is a position in its list of sizes, a position in its list of modes and a
repetition.  Sizes and modes may repeat, places do not: `iterations_enumerated` says that the
iterations go through the places in lexicographic order and come to each of them once, and which
iteration stands at a place.  The number of places that the log gives is a machine word: it is right
for the plans with fewer iterations than there are words, and for no others
(`not_forall_totalIterations`).

Design notes: the position of an iteration is a number with two mixed bases, the repetitions and the
modes, so all that is needed of a place comes from taking quotients and remainders twice.  Lengths
and positions are numbers without bound.
-/

namespace QueueDrain.Plan

/-- A position in the sizes, a position in the modes, and a repetition; repetitions count from one.
-/
structure Place where
  size : Nat
  mode : Nat
  run : Nat

namespace Place

/-- A plan has a place. -/
structure Within (plan : Plan) (p : Place) : Prop where
  size_lt : p.size < plan.items.length
  mode_lt : p.mode < plan.modes.length
  one_le_run : 1 ≤ p.run
  run_le : p.run ≤ plan.runs

/-- The lexicographic order of places. -/
def Before (p q : Place) : Prop :=
  p.size < q.size ∨
    p.size = q.size ∧ (p.mode < q.mode ∨ p.mode = q.mode ∧ p.run < q.run)

theorem Before.ne {p q : Place} (h : p.Before q) : p ≠ q := by
  rintro rfl
  rcases h with h | ⟨-, h | ⟨-, h⟩⟩ <;> omega

/-- The position of a place among the iterations of a plan. -/
def position (plan : Plan) (p : Place) : Nat :=
  (p.size * plan.modes.length + p.mode) * plan.runs + (p.run - 1)

end Place

variable (plan : Plan)

/-- The place of the iteration at a position. -/
def placeAt (k : Nat) : Place :=
  ⟨k / (plan.modes.length * plan.runs), k / plan.runs % plan.modes.length, k % plan.runs + 1⟩

/-- The larger of two numbers has the larger quotient, or the same one and the larger remainder. -/
theorem div_lt_or_mod_lt {a b : Nat} (h : a < b) (c : Nat) :
    a / c < b / c ∨ a / c = b / c ∧ a % c < b % c := by
  rcases Nat.lt_or_eq_of_le (Nat.div_le_div_right (c := c) (Nat.le_of_lt h)) with hlt | heq
  · exact Or.inl hlt
  · refine Or.inr ⟨heq, ?_⟩
    have ha := Nat.div_add_mod a c
    have hb := Nat.div_add_mod b c
    rw [heq] at ha
    omega

theorem placeAt_before {j k : Nat} (h : j < k) : (plan.placeAt j).Before (plan.placeAt k) := by
  have hsize : ∀ n, (plan.placeAt n).size = n / plan.runs / plan.modes.length := fun n => by
    rw [Nat.div_div_eq_div_mul, Nat.mul_comm, placeAt]
  rw [Place.Before, hsize, hsize]
  -- first by the repetitions, and where the quotients differ by the modes
  rcases div_lt_or_mod_lt h plan.runs with hlt | ⟨heq, hrun⟩
  · rcases div_lt_or_mod_lt hlt plan.modes.length with hsize | ⟨hsize, hmode⟩
    · exact Or.inl hsize
    · exact Or.inr ⟨hsize, Or.inl hmode⟩
  · refine Or.inr ⟨congrArg (· / plan.modes.length) heq, Or.inr ⟨?_, Nat.succ_lt_succ hrun⟩⟩
    exact congrArg (· % plan.modes.length) heq

theorem placeAt_inj {j k : Nat} (h : plan.placeAt j = plan.placeAt k) : j = k := by
  rcases Nat.lt_trichotomy j k with hlt | heq | hlt
  · exact absurd h (plan.placeAt_before hlt).ne
  · exact heq
  · exact absurd h.symm (plan.placeAt_before hlt).ne

/-- A plan with an iteration has modes and repetitions. -/
theorem pos_of_lt_countIterations {k : Nat} (h : k < plan.countIterations) :
    0 < plan.modes.length ∧ 0 < plan.runs := by
  rw [countIterations] at h
  constructor
  · refine Nat.pos_of_ne_zero fun hmodes => ?_
    rw [hmodes, Nat.mul_zero, Nat.zero_mul] at h
    exact Nat.not_lt_zero k h
  · refine Nat.pos_of_ne_zero fun hruns => ?_
    rw [hruns, Nat.mul_zero] at h
    exact Nat.not_lt_zero k h

theorem placeAt_within {k : Nat} (h : k < plan.countIterations) :
    (plan.placeAt k).Within plan := by
  obtain ⟨hmodes, hruns⟩ := plan.pos_of_lt_countIterations h
  rw [countIterations, Nat.mul_assoc, Nat.mul_comm] at h
  exact ⟨Nat.div_lt_of_lt_mul h, Nat.mod_lt _ hmodes, Nat.succ_pos _,
    Nat.succ_le_of_lt (Nat.mod_lt k hruns)⟩

/-- The iteration at the position of a place stands at that place. -/
theorem placeAt_position {p : Place} (h : p.Within plan) : plan.placeAt (p.position plan) = p := by
  obtain ⟨-, hmode, hfirst, hlast⟩ := h
  have hruns : 0 < plan.runs := by omega
  have hrun : p.run - 1 < plan.runs := by omega
  have hquotient : p.position plan / plan.runs = p.size * plan.modes.length + p.mode := by
    rw [Place.position, Nat.add_comm, Nat.add_mul_div_right _ _ hruns, Nat.div_eq_of_lt hrun,
      Nat.zero_add]
  have hremainder : p.position plan % plan.runs = p.run - 1 := by
    rw [Place.position, Nat.add_comm, Nat.add_mul_mod_self_right, Nat.mod_eq_of_lt hrun]
  rw [placeAt, Nat.mul_comm plan.modes.length, ← Nat.div_div_eq_div_mul, hquotient, hremainder,
    Nat.add_comm _ p.mode, Nat.add_mul_div_right _ _ (by omega), Nat.add_mul_mod_self_right,
    Nat.div_eq_of_lt hmode, Nat.mod_eq_of_lt hmode, Nat.zero_add, Nat.sub_add_cancel hfirst]

theorem position_lt {p : Place} (h : p.Within plan) : p.position plan < plan.countIterations := by
  obtain ⟨hsize, hmode, hfirst, hlast⟩ := h
  calc p.position plan
      < (p.size * plan.modes.length + p.mode + 1) * plan.runs := by
        rw [Place.position, Nat.add_mul _ 1, Nat.one_mul]
        omega
    _ ≤ (p.size + 1) * plan.modes.length * plan.runs := by
        refine Nat.mul_le_mul_right _ ?_
        rw [Nat.add_mul, Nat.one_mul]
        omega
    _ ≤ plan.countIterations :=
        Nat.mul_le_mul_right _ (Nat.mul_le_mul_right _ (Nat.succ_le_of_lt hsize))

/-! ### How many there are -/

/-- The log has the lower bits of the number of iterations. -/
theorem toNat_totalIterations :
    plan.totalIterations.toNat = plan.countIterations % UInt64.size := by
  simp only [totalIterations, countIterations, UInt64.toNat_mul, UInt64.toNat_ofNat',
    Nat.mod_mul_mod, Nat.mul_mod_mod, UInt64.size]

theorem toNat_totalIterations_iff :
    plan.totalIterations.toNat = plan.countIterations ↔ plan.countIterations < UInt64.size := by
  rw [toNat_totalIterations]
  constructor
  · intro h
    rw [← h]
    exact Nat.mod_lt _ (by decide)
  · exact Nat.mod_eq_of_lt

/-- What the iterations of a plan are, one after the other. -/
structure Enumerated : Prop where
  length : plan.iterations.length = plan.items.length * plan.modes.length * plan.runs
  /-- The number of iterations in the log is cut off at 64 bits. -/
  total : plan.totalIterations.toNat = plan.iterations.length % UInt64.size
  /-- So it is the number of iterations if that has 64 bits, and only then. -/
  total_iff : plan.totalIterations.toNat = plan.iterations.length ↔
    plan.items.length * plan.modes.length * plan.runs < UInt64.size
  /-- The size, the mode and the repetition at each position. -/
  iteration : ∀ k < plan.iterations.length, ∃ items mode,
    plan.items[k / (plan.modes.length * plan.runs)]? = some items ∧
      plan.modes[k / plan.runs % plan.modes.length]? = some mode ∧
      plan.iterations[k]? = some ⟨items, mode, k % plan.runs + 1⟩
  /-- Each place of the plan comes exactly once, and there are no others. -/
  once : ∀ p : Place, p.Within plan ↔ ∃! k, k < plan.iterations.length ∧ plan.placeAt k = p
  ascending : ∀ j k, j < k → k < plan.iterations.length → (plan.placeAt j).Before (plan.placeAt k)

/-- **The iterations of a plan are its places in order.**  There are as many as the product of
sizes, modes and repetitions, the iteration at a position is found by division, and however often
sizes and modes repeat, each place comes once.  Their number in the log is what 64 bits hold of it.
-/
theorem iterations_enumerated : plan.Enumerated := by
  have hlength := plan.length_iterations
  refine ⟨hlength, ?_, ?_, fun k hk => ?_, fun p => ⟨fun hp => ?_, ?_⟩,
    fun _ _ hjk _ => plan.placeAt_before hjk⟩
  · rw [hlength, toNat_totalIterations]
  · rw [hlength, toNat_totalIterations_iff, countIterations]
  · rw [hlength] at hk
    obtain ⟨hsize, hmode, -, -⟩ := plan.placeAt_within hk
    have hitems : plan.items[k / (plan.modes.length * plan.runs)]? = some _ :=
      List.getElem?_eq_getElem hsize
    have hmodes : plan.modes[k / plan.runs % plan.modes.length]? = some _ :=
      List.getElem?_eq_getElem hmode
    refine ⟨_, _, hitems, hmodes, ?_⟩
    rw [← iterationAt?_eq_getElem?, iterationAt?, if_pos hk, hitems, hmodes]
    rfl
  · rw [hlength]
    refine ⟨p.position plan, ⟨plan.position_lt hp, plan.placeAt_position hp⟩, ?_⟩
    rintro k ⟨-, hk⟩
    exact plan.placeAt_inj (hk.trans (plan.placeAt_position hp).symm)
  · rw [hlength]
    rintro ⟨k, ⟨hk, rfl⟩, -⟩
    exact plan.placeAt_within hk

/-! ### More iterations than words -/

/-- A text that names one mode a number of times. -/
theorem parseModes_replicate (n : Nat) :
    parseModes (String.ofList ([','].intercalate (List.replicate (n + 1) "sync".toList))) =
      .ok (List.replicate (n + 1) .sync) := by
  have hplain : "sync".toList.all (!Text.isBlank ·) := by decide
  have hname : Text.IsPart "sync".toList :=
    .of_forall (by decide) fun c hc => by simpa using List.all_eq_true.mp hplain c hc
  have hparts : ∀ part ∈ List.replicate (n + 1) "sync".toList, Text.IsPart part ∧ ',' ∉ part := by
    intro part hpart
    rw [List.eq_of_mem_replicate hpart]
    exact ⟨hname, by decide⟩
  rw [parseModes_eq, String.toList_ofList,
    Text.listParts_intercalate (Text.Pads.refl _) (by simp) hparts, readList_eq_ok_iff]
  have hnames : (List.replicate (n + 1) Mode.sync).map (·.name.toList) =
      List.replicate (n + 1) "sync".toList := by
    rw [List.map_replicate]
    rfl
  rw [← hnames, List.forall₂_map_left_iff, List.forall₂_same]
  exact ⟨by simp, fun mode _ => parseMode_eq_ok_iff.mpr rfl⟩

/-- A text that lists one size a number of times. -/
theorem parseItemsList_replicate (n : Nat) :
    parseItemsList (String.ofList ([','].intercalate (List.replicate (n + 1) "1".toList))) =
      .ok (List.replicate (n + 1) 1) := by
  have hsizes : ∀ k ∈ List.replicate (n + 1) 1, 0 < k ∧ k < Text.int64Limit := by
    intro k hk
    rw [List.eq_of_mem_replicate hk]
    decide
  have hdigits : (List.replicate (n + 1) 1).map (fun k : Nat => (toString k).toList) =
      List.replicate (n + 1) "1".toList := by
    rw [List.map_replicate]
    rfl
  refine parseItemsList_intercalate (by simp) hsizes ?_
  rw [hdigits]
  exact Text.Pads.refl _

/-- Settings that list one size and one mode very often, and ask for as many repetitions as there
can be. -/
def vastInputs : Inputs where
  itemsList := some (String.ofList ([','].intercalate (List.replicate 131072 "1".toList)))
  modes := some (String.ofList ([','].intercalate (List.replicate 32769 "sync".toList)))
  runs := 4294967295

def vastPlan : Plan :=
  { single with
    items := List.replicate 131072 1, modes := List.replicate 32769 .sync, runs := 4294967295 }

theorem resolve_vastInputs : resolve Url.standard .flow vastInputs = .ok vastPlan := by
  have haddress : Url.standard.isWeb vastPlan.baseUrl := by decide +kernel
  have hbase : resolveBaseUrl Url.standard vastInputs.baseUrl = .ok vastPlan.baseUrl :=
    resolveBaseUrl_eq_ok_iff.mpr ⟨by decide, haddress⟩
  have hitems : resolveItems vastInputs = .ok vastPlan.items := parseItemsList_replicate 131071
  have hread : readModes .flow vastInputs.modes = .ok vastPlan.modes := parseModes_replicate 32768
  have hallowed : vastPlan.modes.find? (!Profile.flow.allows ·) = none := by
    rw [List.find?_eq_none]
    intro mode hmode
    rw [List.eq_of_mem_replicate hmode]
    decide
  rw [resolve, hbase, hitems, resolveModes_of_allowed hread hallowed]
  rfl

/-- Some plans have another number of iterations than the log says. -/
theorem not_forall_totalIterations :
    ¬ ∀ (profile : Profile) (inputs : Inputs) (plan : Plan),
      resolve Url.standard profile inputs = .ok plan →
        plan.iterations.length = plan.totalIterations.toNat := by
  intro h
  have hwrong := h .flow vastInputs vastPlan resolve_vastInputs
  have hitems : vastPlan.items.length = 131072 := List.length_replicate
  have hmodes : vastPlan.modes.length = 32769 := List.length_replicate
  rw [length_iterations] at hwrong
  have hfits := vastPlan.toNat_totalIterations_iff.mp hwrong.symm
  rw [countIterations, hitems, hmodes] at hfits
  exact absurd hfits (by decide)

end QueueDrain.Plan
