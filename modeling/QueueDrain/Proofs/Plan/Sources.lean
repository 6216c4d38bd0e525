import Mathlib.Data.List.Forall2
import QueueDrain.Plan.Resolve
import QueueDrain.Proofs.Text.Integer

/-!
The first thing that is wrong with a list, and the sources of sizes and modes.

A list is checked from left to right, and the first part with a fault decides (`FirstFault`).  That
holds of the parts of a list of sizes and of a list of modes, and of the checks of the settings
themselves.  `Settles` ties the outcome of such a check to the parts: it succeeds if all are right,
and its error is the first fault.

Design notes: what is right and what is a fault is said of single parts and without the code that
reads them.  A check that goes on with another one settles the parts of both (`Settles.bind`), so
the order of the parts is the order in which the code binds.
-/

namespace QueueDrain

variable {α β γ ε : Type} {ok : α → Prop} {fault : α → ε → Prop}

/-! ### First faults -/

/-- The first part of a list that is not right has a fault. -/
inductive FirstFault (ok : α → Prop) (fault : α → ε → Prop) : List α → ε → Prop where
  | here {x : α} {rest : List α} {e : ε} (h : fault x e) : FirstFault ok fault (x :: rest) e
  | later {x : α} {rest : List α} {e : ε} (h : ok x) (first : FirstFault ok fault rest e) :
    FirstFault ok fault (x :: rest) e

namespace FirstFault

theorem append_right {l : List α} {e : ε} (h : FirstFault ok fault l e) (m : List α) :
    FirstFault ok fault (l ++ m) e := by
  induction h with
  | here h => exact .here h
  | later h _ ih => exact .later h ih

theorem append_left {l m : List α} {e : ε} (hl : ∀ x ∈ l, ok x)
    (h : FirstFault ok fault m e) : FirstFault ok fault (l ++ m) e := by
  induction l with
  | nil => exact h
  | cons x l ih =>
    rw [List.forall_mem_cons] at hl
    exact .later hl.1 (ih hl.2)

/-- Where a part with a fault is not right, a list with a first fault is not right. -/
theorem exists_not {l : List α} {e : ε} (hfault : ∀ x e, fault x e → ¬ ok x)
    (h : FirstFault ok fault l e) : ∃ x ∈ l, ¬ ok x := by
  induction h with
  | here h => exact ⟨_, List.mem_cons_self, hfault _ _ h⟩
  | later _ _ ih =>
    obtain ⟨x, hx, hok⟩ := ih
    exact ⟨x, List.mem_cons_of_mem _ hx, hok⟩

/-- Where a part has at most one fault, there is at most one first fault. -/
theorem unique {l : List α} {e e' : ε} (hfault : ∀ x e, fault x e → ¬ ok x)
    (hunique : ∀ x e e', fault x e → fault x e' → e = e') (h : FirstFault ok fault l e)
    (h' : FirstFault ok fault l e') : e = e' := by
  induction h with
  | here h =>
    cases h' with
    | here h' => exact hunique _ _ _ h h'
    | later hok _ => exact absurd hok (hfault _ _ h)
  | later hok _ ih =>
    cases h' with
    | here h' => exact absurd hok (hfault _ _ h')
    | later _ h' => exact ih h'

end FirstFault

/-- An outcome that tells whether all parts are right, and if not, what the first fault is. -/
inductive Settles (ok : α → Prop) (fault : α → ε → Prop) (l : List α) : Except ε β → Prop where
  | success {b : β} (h : ∀ x ∈ l, ok x) : Settles ok fault l (.ok b)
  | failure {e : ε} (h : FirstFault ok fault l e) : Settles ok fault l (.error e)

namespace Settles

variable {l m : List α} {x : Except ε β} {k : β → Except ε γ}

theorem one {a : α} {b : β} (h : ok a) : Settles ok fault [a] (.ok b : Except ε β) := by
  refine .success fun y hy => ?_
  obtain rfl := List.mem_singleton.mp hy
  exact h

theorem of_fault {a : α} {e : ε} (h : fault a e) (rest : List α) :
    Settles ok fault (a :: rest) (.error e : Except ε β) := .failure (.here h)

theorem bind (hx : Settles ok fault l x) (hk : ∀ b, x = .ok b → Settles ok fault m (k b)) :
    Settles ok fault (l ++ m) (x >>= k) := by
  cases hx with
  | failure h => exact .failure (h.append_right m)
  | @success b h =>
    have hkb := hk b rfl
    show Settles ok fault (l ++ m) (k b)
    generalize k b = y at hkb
    cases hkb with
    | failure h' => exact .failure (.append_left h h')
    | success h' => exact .success (List.forall_mem_append.mpr ⟨h, h'⟩)

/-- A list of parts is settled part by part. -/
theorem mapM {f : α → Except ε β} (hf : ∀ x, Settles ok fault [x] (f x)) (l : List α) :
    Settles ok fault l (l.mapM f) := by
  induction l with
  | nil => exact .success fun x hx => absurd hx List.not_mem_nil
  | cons x l ih =>
    rw [List.mapM_cons]
    refine Settles.bind (l := [x]) (hf x) fun b _ => ?_
    have hmap := Settles.bind (m := []) (k := fun bs => pure (b :: bs)) ih fun bs _ =>
      .success fun y hy => absurd hy List.not_mem_nil
    rwa [List.append_nil] at hmap

end Settles

/-- What two steps give, the first step gave too. -/
theorem eq_ok_of_bind_eq_ok {x : Except ε β} {k : β → Except ε γ} {c : γ}
    (h : (x >>= k) = .ok c) : ∃ b, x = .ok b ∧ k b = .ok c := by
  rcases x with e | b
  · cases h
  · exact ⟨b, rfl, h⟩

/-- A list is read to what its parts are read to, one by one. -/
theorem mapM_eq_ok_iff {f : α → Except ε β} {l : List α} {ys : List β} :
    l.mapM f = .ok ys ↔ List.Forall₂ (fun x y => f x = .ok y) l ys := by
  induction l generalizing ys with
  | nil =>
    rw [List.mapM_nil, List.forall₂_nil_left_iff]
    exact ⟨fun h => (Except.ok.inj h).symm, fun h => congrArg Except.ok h.symm⟩
  | cons x l ih =>
    rw [List.mapM_cons, List.forall₂_cons_left_iff]
    constructor
    · intro h
      obtain ⟨y, hy, h⟩ := eq_ok_of_bind_eq_ok h
      obtain ⟨zs, hzs, h⟩ := eq_ok_of_bind_eq_ok h
      exact ⟨y, zs, hy, ih.mp hzs, (Except.ok.inj h).symm⟩
    · rintro ⟨y, zs, hy, hzs, rfl⟩
      rw [hy, ih.mpr hzs]
      rfl

theorem length_of_mapM {f : α → Except ε β} {l : List α} {ys : List β} (h : l.mapM f = .ok ys) :
    ys.length = l.length :=
  (mapM_eq_ok_iff.mp h).length_eq.symm

/-! ### Lists that may not be empty -/

/-- What is wrong with a list that may not be empty: the first fault, or that it is empty. -/
def ListFault (ok : α → Prop) (fault : α → ε → Prop) (empty : ε) (l : List α) (e : ε) : Prop :=
  FirstFault ok fault l e ∨ l = [] ∧ e = empty

/-- A list that may not be empty is right if there are parts and all of them are right. -/
def ListOk (ok : α → Prop) (l : List α) : Prop := l ≠ [] ∧ ∀ x ∈ l, ok x

theorem ListFault.not_listOk (hfault : ∀ x e, fault x e → ¬ ok x) {empty e : ε} {l : List α}
    (h : ListFault ok fault empty l e) : ¬ ListOk ok l := by
  rintro ⟨hne, hall⟩
  rcases h with hfirst | ⟨hnil, -⟩
  · obtain ⟨x, hx, hnot⟩ := hfirst.exists_not hfault
    exact hnot (hall x hx)
  · exact hne hnil

theorem ListFault.unique (hfault : ∀ x e, fault x e → ¬ ok x)
    (hunique : ∀ x e e', fault x e → fault x e' → e = e') {empty e e' : ε} {l : List α}
    (h : ListFault ok fault empty l e) (h' : ListFault ok fault empty l e') : e = e' := by
  rcases h with h | ⟨rfl, rfl⟩
  · rcases h' with h' | ⟨rfl, rfl⟩
    · exact h.unique hfault hunique h'
    · cases h
  · rcases h' with h' | ⟨-, rfl⟩
    · cases h'
    · rfl

/-- Reading a list that may not be empty, part by part. -/
def readList (f : α → Except ε β) (empty : ε) (l : List α) : Except ε (List β) := do
  match ← l.mapM f with
  | [] => .error empty
  | ys => .ok ys

theorem readList_cases {f : α → Except ε β} (hf : ∀ x, Settles ok fault [x] (f x)) (empty : ε)
    (l : List α) :
    (∃ y ys, l.mapM f = .ok (y :: ys) ∧ readList f empty l = .ok (y :: ys) ∧ ListOk ok l) ∨
      ∃ e, readList f empty l = .error e ∧ ListFault ok fault empty l e := by
  have hsettles := Settles.mapM hf l
  rw [readList]
  rcases hmap : l.mapM f with e | ys
  · rw [hmap] at hsettles
    cases hsettles with
    | failure h => exact Or.inr ⟨e, rfl, Or.inl h⟩
  · rw [hmap] at hsettles
    cases hsettles with
    | success h =>
      have hlength := length_of_mapM hmap
      rcases ys with _ | ⟨y, ys⟩
      · exact Or.inr ⟨empty, rfl, Or.inr ⟨List.eq_nil_of_length_eq_zero hlength.symm, rfl⟩⟩
      · refine Or.inl ⟨y, ys, rfl, rfl, ?_, h⟩
        rintro rfl
        cases hlength

theorem readList_eq_ok_iff {f : α → Except ε β} {empty : ε} {l : List α} {ys : List β} :
    readList f empty l = .ok ys ↔ ys ≠ [] ∧ List.Forall₂ (fun x y => f x = .ok y) l ys := by
  rw [← mapM_eq_ok_iff, readList]
  rcases l.mapM f with e | ⟨_ | ⟨z, zs⟩⟩
  · constructor
    · intro h
      cases h
    · rintro ⟨-, h⟩
      cases h
  · constructor
    · intro h
      cases h
    · rintro ⟨hne, h⟩
      exact absurd (Except.ok.inj h).symm hne
  · constructor
    · intro h
      obtain rfl : z :: zs = ys := Except.ok.inj h
      exact ⟨List.cons_ne_nil z zs, rfl⟩
    · rintro ⟨-, h⟩
      obtain rfl : z :: zs = ys := Except.ok.inj h
      rfl

theorem readList_eq_error_iff {f : α → Except ε β} (hf : ∀ x, Settles ok fault [x] (f x))
    (hfault : ∀ x e, fault x e → ¬ ok x) (hunique : ∀ x e e', fault x e → fault x e' → e = e')
    {empty e : ε} {l : List α} :
    readList f empty l = .error e ↔ ListFault ok fault empty l e := by
  rcases readList_cases hf empty l with ⟨y, ys, -, hread, hok⟩ | ⟨e', hread, hlist⟩
  · rw [hread]
    constructor
    · intro h
      cases h
    · intro h
      exact absurd hok (h.not_listOk hfault)
  · rw [hread]
    constructor
    · intro h
      obtain rfl : e' = e := Except.error.inj h
      exact hlist
    · intro h
      rw [hlist.unique hfault hunique h]

namespace Plan

/-! ### Sizes -/

/-- A part of a list stands for a size: it spells a positive integer of 64 bits. -/
def IsSize (part : List Char) : Prop :=
  ∃ n : Int, Text.SpellsInteger part n ∧ 0 < n ∧ n < Text.int64Limit

/-- What is wrong with a part of a list of sizes. -/
inductive SizeFault (part : List Char) : Refusal → Prop where
  | noInteger (h : ∀ n, Text.SpellsInteger part n →
      n < -(Text.int64Limit : Int) ∨ Text.int64Limit ≤ n) :
    SizeFault part (.item (String.ofList part))
  | nonPositive {n : Int} (spells : Text.SpellsInteger part n)
    (lower : -(Text.int64Limit : Int) ≤ n) (h : n ≤ 0) : SizeFault part (.nonPositiveItems n)

theorem SizeFault.not_isSize {part : List Char} {e : Refusal} (h : SizeFault part e) :
    ¬ IsSize part := by
  rintro ⟨n, hn, hpos, hlimit⟩
  cases h with
  | noInteger h =>
    have hrange := h n hn
    omega
  | nonPositive hm hlower hle =>
    obtain rfl := hm.unique hn
    omega

theorem SizeFault.unique {part : List Char} {e e' : Refusal} (h : SizeFault part e)
    (h' : SizeFault part e') : e = e' := by
  cases h with
  | noInteger h =>
    cases h' with
    | noInteger => rfl
    | nonPositive hn hlower hle =>
      have hrange := h _ hn
      have hlimit : 0 < Text.int64Limit := by decide
      omega
  | nonPositive hn hlower hle =>
    cases h' with
    | noInteger h' =>
      have hrange := h' _ hn
      have hlimit : 0 < Text.int64Limit := by decide
      omega
    | nonPositive hm => rw [hn.unique hm]

theorem positiveItems_eq_ok_iff {n : Int} {k : Nat} :
    positiveItems n = .ok k ↔ 0 < n ∧ (k : Int) = n := by
  rw [positiveItems]
  by_cases hn : 0 < n
  · rw [if_pos hn, Except.ok.injEq]
    omega
  · rw [if_neg hn]
    simp [hn]

/-- A part is read as the size that it spells. -/
theorem parseItem_eq_ok_iff {part : List Char} {k : Nat} :
    parseItem part = .ok k ↔ Text.SpellsInteger part k ∧ 0 < k ∧ k < Text.int64Limit := by
  rw [parseItem]
  rcases hread : Text.readInt64 part with e | n
  · constructor
    · intro h
      cases h
    · rintro ⟨hspells, hpos, hlimit⟩
      have hok : Text.readInt64 part = .ok (k : Int) :=
        Text.readInt64_eq_ok_iff.mpr ⟨hspells, by omega, by omega⟩
      rw [hread] at hok
      cases hok
  · obtain ⟨hspells, hlower, hupper⟩ := Text.readInt64_eq_ok_iff.mp hread
    show positiveItems n = .ok k ↔ _
    rw [positiveItems_eq_ok_iff]
    constructor
    · rintro ⟨hpos, rfl⟩
      exact ⟨hspells, by omega, by omega⟩
    · rintro ⟨hk, hpos, hlimit⟩
      obtain rfl := hspells.unique hk
      omega

theorem parseItem_settles (part : List Char) :
    Settles IsSize SizeFault [part] (parseItem part) := by
  rcases h : parseItem part with e | k
  · refine .of_fault ?_ []
    rw [parseItem] at h
    rcases hread : Text.readInt64 part with f | n
    · rw [hread] at h
      obtain rfl : Refusal.item (String.ofList part) = e := Except.error.inj h
      refine .noInteger fun n hn => ?_
      -- an integer within the bounds would have been read
      by_cases hrange : -(Text.int64Limit : Int) ≤ n ∧ n < Text.int64Limit
      · have hok := Text.readInt64_eq_ok_iff.mpr ⟨hn, hrange⟩
        rw [hread] at hok
        cases hok
      · omega
    · rw [hread] at h
      obtain ⟨hspells, hlower, -⟩ := Text.readInt64_eq_ok_iff.mp hread
      simp only [positiveItems] at h
      by_cases hpos : 0 < n
      · rw [if_pos hpos] at h
        cases h
      · rw [if_neg hpos] at h
        obtain rfl : Refusal.nonPositiveItems n = e := Except.error.inj h
        exact .nonPositive hspells hlower (by omega)
  · obtain ⟨hspells, hpos, hlimit⟩ := parseItem_eq_ok_iff.mp h
    exact .one ⟨k, hspells, by omega, by omega⟩

theorem parseItemsList_eq (raw : String) :
    parseItemsList raw = readList parseItem .noItems (Text.listParts raw.toList) := by
  rw [parseItemsList, readList]
  rcases (Text.listParts raw.toList).mapM parseItem with e | ⟨_ | ⟨n, ns⟩⟩ <;> rfl

/-! ### Modes -/

theorem Mode.name_injective {m m' : Mode} (h : m.name = m'.name) : m = m' := by
  cases m <;> cases m' <;> first | rfl | exact absurd h (by decide)

theorem Mode.ofName?_eq_some_iff {s : String} {m : Mode} :
    Mode.ofName? s = some m ↔ m.name = s := by
  constructor
  · intro h
    simpa using List.find?_some h
  · rintro rfl
    cases m <;> rfl

/-- A part of a list stands for a mode. -/
def IsMode (part : List Char) : Prop := ∃ m : Mode, m.name.toList = part

/-- What is wrong with a part of a list of modes. -/
inductive ModeFault (part : List Char) : Refusal → Prop where
  | unknown (h : ¬ IsMode part) : ModeFault part (.unknownMode (String.ofList part))

theorem parseMode_eq_ok_iff {part : List Char} {m : Mode} :
    parseMode part = .ok m ↔ m.name.toList = part := by
  have hname : m.name = String.ofList part ↔ m.name.toList = part := by
    constructor
    · intro h
      rw [h, String.toList_ofList]
    · intro h
      rw [← h, String.ofList_toList]
  rw [parseMode, ← hname, ← Mode.ofName?_eq_some_iff]
  rcases Mode.ofName? (String.ofList part) with _ | m' <;> simp

theorem parseModes_eq (raw : String) :
    parseModes raw = readList parseMode .noModes (Text.listParts raw.toList) := by
  rw [parseModes, readList]
  rcases (Text.listParts raw.toList).mapM parseMode with e | ⟨_ | ⟨m, ms⟩⟩ <;> rfl

theorem eq_of_map_name_eq {modes modes' : List Mode}
    (h : modes.map (·.name.toList) = modes'.map (·.name.toList)) : modes = modes' := by
  refine (List.map_inj_right fun m m' hm => ?_).mp h
  exact Mode.name_injective (String.toList_inj.mp hm)

end Plan

end QueueDrain
