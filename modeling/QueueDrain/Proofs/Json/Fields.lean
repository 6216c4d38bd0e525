import Mathlib.Data.List.Forall2
import QueueDrain.Json.Basic

/-!
The fields of objects.

Binding a key changes what that key is bound to and nothing else (`get?_insert`), so fields that are
put together from a list have the last value of each key (`get?_ofList`); and their keys are
ascending (`ascending_ofList`), which is the only way to write them (`ofList_of_ascending`).
-/

namespace QueueDrain.Json.Fields

/-- The keys are ascending, so none of them is there twice. -/
def Ascending (fields : Fields) : Prop := (fields.map (·.1)).Pairwise (· < ·)

variable {key : String} {value : Json} {fields : Fields}

/-! ### What keys are bound to -/

theorem get?_cons (k : String) (v : Json) (fields : Fields) (key : String) :
    get? ((k, v) :: fields) key = if key = k then some v else get? fields key := by
  rw [get?, get?, List.lookup_cons]
  by_cases h : key = k
  · rw [if_pos h, beq_iff_eq.mpr h]
  · rw [if_neg h, beq_eq_false_iff_ne.mpr h]

theorem get?_insert (key : String) (value : Json) (fields : Fields) (other : String) :
    get? (insert key value fields) other =
      if other = key then some value else get? fields other := by
  induction fields with
  | nil => rw [insert, get?_cons]
  | cons field fields ih =>
    obtain ⟨k, v⟩ := field
    rw [insert]
    by_cases hkey : key = k
    · subst hkey
      rw [if_pos rfl, get?_cons, get?_cons]
      split <;> rfl
    · rw [if_neg hkey]
      split
      · rw [get?_cons]
      · rw [get?_cons, ih, get?_cons]
        by_cases hk : other = k
        · rw [if_pos hk, if_pos hk, if_neg fun h => hkey (h.symm.trans hk)]
        · rw [if_neg hk, if_neg hk]

theorem get?_merge (first second : Fields) (key : String) :
    get? (merge first second) key = (List.lookup key second.reverse).or (get? first key) := by
  induction second generalizing first with
  | nil => rfl
  | cons field second ih =>
    obtain ⟨k, v⟩ := field
    have hmerge : merge first ((k, v) :: second) = merge (insert k v first) second := rfl
    rw [hmerge, ih, get?_insert, List.reverse_cons, List.lookup_append, Option.or_assoc]
    congr 1
    by_cases h : key = k
    · rw [if_pos h, List.lookup_cons, beq_iff_eq.mpr h]
      rfl
    · rw [if_neg h, List.lookup_cons, beq_eq_false_iff_ne.mpr h]
      rfl

/-- Of several bindings of a key the last one counts. -/
theorem get?_ofList (bindings : List (String × Json)) (key : String) :
    get? (ofList bindings) key = List.lookup key bindings.reverse := by
  rw [ofList, get?_merge, get?, List.lookup_nil, Option.or_none]

/-- Among bindings of different keys every one counts. -/
theorem lookup_of_mem {α : Type} {bindings : List (String × α)} {a : α}
    (hnodup : (bindings.map (·.1)).Nodup) (h : (key, a) ∈ bindings) :
    bindings.lookup key = some a := by
  induction bindings with
  | nil => exact absurd h List.not_mem_nil
  | cons binding bindings ih =>
    obtain ⟨hnot, hrest⟩ := List.nodup_cons.mp hnodup
    rcases List.mem_cons.mp h with rfl | h
    · exact List.lookup_cons_self
    · have hne : key ≠ binding.1 := by
        rintro rfl
        exact hnot (List.mem_map.mpr ⟨_, h, rfl⟩)
      rw [List.lookup_cons, beq_eq_false_iff_ne.mpr hne]
      exact ih hrest h

/-- A key that is not on the list is not bound. -/
theorem lookup_of_not_mem {α : Type} {bindings : List (String × α)}
    (h : key ∉ bindings.map (·.1)) : bindings.lookup key = none := by
  refine List.lookup_eq_none_iff.mpr fun binding hbinding => bne_iff_ne.mpr ?_
  rintro rfl
  exact h (List.mem_map_of_mem hbinding)

theorem mem_insert {field : String × Json} (h : field ∈ insert key value fields) :
    field = (key, value) ∨ field ∈ fields := by
  induction fields with
  | nil => exact Or.inl (List.mem_singleton.mp h)
  | cons other fields ih =>
    obtain ⟨k, v⟩ := other
    rw [insert] at h
    split at h
    · exact (List.mem_cons.mp h).imp_right (List.mem_cons_of_mem _)
    · split at h
      · exact List.mem_cons.mp h
      · rcases List.mem_cons.mp h with rfl | h
        · exact Or.inr List.mem_cons_self
        · exact (ih h).imp_right (List.mem_cons_of_mem _)

theorem mem_merge {first second : Fields} {field : String × Json} (h : field ∈ merge first second) :
    field ∈ first ∨ field ∈ second := by
  induction second generalizing first with
  | nil => exact Or.inl h
  | cons other second ih =>
    rcases ih h with h | h
    · rcases mem_insert h with rfl | h
      · exact Or.inr List.mem_cons_self
      · exact Or.inl h
    · exact Or.inr (List.mem_cons_of_mem _ h)

/-- Nothing is put together but what is on the list. -/
theorem mem_ofList {bindings : List (String × Json)} {field : String × Json}
    (h : field ∈ ofList bindings) : field ∈ bindings :=
  (mem_merge h).resolve_left List.not_mem_nil

/-- The values of fields one by one, under the same keys. -/
def mapValues (f : Json → Json) (fields : Fields) : Fields := fields.map fun (k, v) => (k, f v)

theorem get?_mapValues (f : Json → Json) (fields : Fields) (key : String) :
    get? (mapValues f fields) key = (get? fields key).map f := by
  induction fields with
  | nil => rfl
  | cons field fields ih =>
    obtain ⟨k, v⟩ := field
    have hmap : mapValues f ((k, v) :: fields) = (k, f v) :: mapValues f fields := rfl
    rw [hmap, get?_cons, ih, get?_cons]
    split <;> rfl

/-! ### Values that are related -/

/-- The same keys in the same order, and under each of them values that are related. -/
def Related (R : String → Json → Json → Prop) (fields fields' : Fields) : Prop :=
  List.Forall₂ (fun field field' => field.1 = field'.1 ∧ R field.1 field.2 field'.2) fields fields'

section Related

variable {R : String → Json → Json → Prop} {value' : Json} {fields' : Fields}

theorem related_insert (hvalue : R key value value') (h : Related R fields fields') :
    Related R (insert key value fields) (insert key value' fields') := by
  induction h with
  | nil => exact .cons ⟨rfl, hvalue⟩ .nil
  | @cons field field' fields fields' hfield hfields ih =>
    obtain ⟨k, v⟩ := field
    obtain ⟨k', v'⟩ := field'
    obtain ⟨rfl, hv⟩ : k = k' ∧ R k v v' := hfield
    rw [insert, insert]
    by_cases hkey : key = k
    · rw [if_pos hkey, if_pos hkey]
      exact .cons ⟨rfl, hvalue⟩ hfields
    · rw [if_neg hkey, if_neg hkey]
      by_cases hlt : key < k
      · rw [if_pos hlt, if_pos hlt]
        exact .cons ⟨rfl, hvalue⟩ (.cons ⟨rfl, hv⟩ hfields)
      · rw [if_neg hlt, if_neg hlt]
        exact .cons ⟨rfl, hv⟩ ih

theorem related_merge {first first' second second' : Fields} (hfirst : Related R first first')
    (h : Related R second second') : Related R (merge first second) (merge first' second') := by
  induction h generalizing first first' with
  | nil => exact hfirst
  | @cons field field' second second' hfield hsecond ih =>
    obtain ⟨k, v⟩ := field
    obtain ⟨k', v'⟩ := field'
    obtain ⟨rfl, hv⟩ : k = k' ∧ R k v v' := hfield
    exact ih (related_insert hv hfirst)

/-- Putting together related bindings gives related fields. -/
theorem related_ofList {bindings bindings' : List (String × Json)}
    (h : Related R bindings bindings') : Related R (ofList bindings) (ofList bindings') :=
  related_merge .nil h

end Related

/-! ### The order of keys -/

theorem ascending_mapValues (f : Json → Json) (h : Ascending fields) :
    Ascending (mapValues f fields) := by
  rw [Ascending, mapValues, List.map_map]
  exact h

theorem mem_keys_insert {k : String} (h : k ∈ (insert key value fields).map (·.1)) :
    k = key ∨ k ∈ fields.map (·.1) := by
  obtain ⟨field, hfield, rfl⟩ := List.mem_map.mp h
  rcases mem_insert hfield with rfl | hfield
  · exact Or.inl rfl
  · exact Or.inr (List.mem_map_of_mem hfield)

theorem ascending_insert (h : Ascending fields) : Ascending (insert key value fields) := by
  induction fields with
  | nil => exact List.pairwise_singleton _ _
  | cons field fields ih =>
    obtain ⟨k, v⟩ := field
    obtain ⟨hk, hfields⟩ := List.pairwise_cons.mp h
    rw [insert]
    by_cases hkey : key = k
    · subst hkey
      rw [if_pos rfl]
      exact List.pairwise_cons.mpr ⟨hk, hfields⟩
    · rw [if_neg hkey]
      by_cases hlt : key < k
      · rw [if_pos hlt]
        refine List.pairwise_cons.mpr ⟨fun other hother => ?_, h⟩
        rcases List.mem_cons.mp hother with rfl | hother
        · exact hlt
        · exact String.lt_trans hlt (hk other hother)
      · rw [if_neg hlt]
        refine List.pairwise_cons.mpr ⟨fun other hother => ?_, ih hfields⟩
        rcases mem_keys_insert hother with rfl | hother
        · exact Std.lt_of_le_of_ne (String.not_lt.mp hlt) (Ne.symm hkey)
        · exact hk other hother

theorem ascending_merge {first : Fields} (second : Fields) (h : Ascending first) :
    Ascending (merge first second) := by
  induction second generalizing first with
  | nil => exact h
  | cons field second ih => exact ih (ascending_insert h)

theorem ascending_ofList (bindings : List (String × Json)) : Ascending (ofList bindings) :=
  ascending_merge bindings List.Pairwise.nil

/-- A key after all others is put at the end. -/
theorem insert_of_lt (value : Json) (h : ∀ k ∈ fields.map (·.1), k < key) :
    insert key value fields = fields ++ [(key, value)] := by
  induction fields with
  | nil => rfl
  | cons field fields ih =>
    obtain ⟨k, v⟩ := field
    have hk : k < key := h k List.mem_cons_self
    have hne : key ≠ k := fun heq => String.lt_irrefl k (heq ▸ hk)
    rw [insert, if_neg hne, if_neg (String.lt_asymm hk),
      ih fun k' hk' => h k' (List.mem_cons_of_mem _ hk')]
    rfl

theorem merge_of_ascending {first second : Fields} (h : Ascending (first ++ second)) :
    merge first second = first ++ second := by
  induction second generalizing first with
  | nil => exact (List.append_nil first).symm
  | cons field second ih =>
    obtain ⟨k, v⟩ := field
    have hkeys : ∀ k' ∈ first.map (·.1), k' < k := by
      rw [Ascending, List.map_append, List.map_cons] at h
      exact fun k' hk' => (List.pairwise_append.mp h).2.2 k' hk' k List.mem_cons_self
    have hmerge : merge first ((k, v) :: second) = merge (insert k v first) second := rfl
    have happend : first ++ (k, v) :: second = first ++ [(k, v)] ++ second := by simp
    rw [hmerge, insert_of_lt v hkeys, happend]
    exact ih (happend ▸ h)

/-- Fields whose keys are ascending are what their own list is put together to. -/
theorem ofList_of_ascending (h : Ascending fields) : ofList fields = fields :=
  merge_of_ascending h

end QueueDrain.Json.Fields
