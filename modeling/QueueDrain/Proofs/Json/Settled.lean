import QueueDrain.Proofs.Json.Admission
import QueueDrain.Proofs.Text.Order

/-!
Documents that stay as they are.

If the keys of all objects are in the order of their bytes (`InOrder`), all numbers are integers of
64 bits (`Whole`), and no more arrays and objects are inside each other than the reader admits
(`depth`), then the text of a document is read as that document (`Whole.readable`).

What is read from any other text settles it (`Settles`): arrays are taken item by item, and objects
key by key, in order and with the last value of each.  That leaves one result (`settles_iff`), which
is nested no deeper than what it was read from (`Bounded.admissible_ordered`).
-/

namespace QueueDrain.Json

/-- The keys are in the order of their bytes, so none of them is there twice. -/
def Fields.ByteAscending (fields : Fields) : Prop :=
  fields.Pairwise fun field other =>
    Text.Utf8.encode field.1.toList < Text.Utf8.encode other.1.toList

theorem Fields.ascending_iff (fields : Fields) : fields.Ascending ↔ fields.ByteAscending := by
  rw [Ascending, List.pairwise_map]
  simp only [Text.Utf8.lt_iff_encode]
  rfl

/-! ### Documents in order -/

/-- The keys of all objects are in the order of their bytes, as they are wherever fields are put
together. -/
inductive InOrder : Json → Prop where
  | null : InOrder .null
  | bool (b : Bool) : InOrder (.bool b)
  | number (n : Number) : InOrder (.number n)
  | string (s : String) : InOrder (.string s)
  | array {items : List Json} (h : ∀ v ∈ items, InOrder v) : InOrder (.array items)
  | object {fields : Fields} (order : fields.ByteAscending)
    (h : ∀ field ∈ fields, InOrder field.2) : InOrder (.object fields)

/-- All numbers are integers of 64 bits, signed or unsigned. -/
inductive Whole : Json → Prop where
  | null : Whole .null
  | bool (b : Bool) : Whole (.bool b)
  | int {n : Int} (lower : -(Text.int64Limit : Int) ≤ n) (upper : n < UInt64.size) :
    Whole (.number (.int n))
  | string (s : String) : Whole (.string s)
  | array {items : List Json} (h : ∀ v ∈ items, Whole v) : Whole (.array items)
  | object {fields : Fields} (h : ∀ field ∈ fields, Whole field.2) : Whole (.object fields)

mutual

/-- How many arrays and objects are inside each other at most. -/
def depth : Json → Nat
  | .null => 0
  | .bool _ => 0
  | .number _ => 0
  | .string _ => 0
  | .array items => itemsDepth items + 1
  | .object fields => fieldsDepth fields + 1

def itemsDepth : List Json → Nat
  | [] => 0
  | v :: items => max v.depth (itemsDepth items)

def fieldsDepth : List (String × Json) → Nat
  | [] => 0
  | (_, v) :: fields => max v.depth (fieldsDepth fields)

end

theorem depth_le_itemsDepth {items : List Json} : ∀ v ∈ items, v.depth ≤ itemsDepth items := by
  induction items with
  | nil => exact nofun
  | cons w items ih =>
    rw [itemsDepth, List.forall_mem_cons]
    exact ⟨Nat.le_max_left _ _, fun v hv => Nat.le_trans (ih v hv) (Nat.le_max_right _ _)⟩

theorem depth_le_fieldsDepth {fields : Fields} :
    ∀ field ∈ fields, field.2.depth ≤ fieldsDepth fields := by
  induction fields with
  | nil => exact nofun
  | cons field fields ih =>
    rw [fieldsDepth, List.forall_mem_cons]
    exact ⟨Nat.le_max_left _ _, fun f hf => Nat.le_trans (ih f hf) (Nat.le_max_right _ _)⟩

/-- What has no doubles is bounded by its depth. -/
theorem Whole.bounded {v : Json} (h : v.Whole) {limit : Nat} (hdepth : v.depth ≤ limit) :
    Bounded limit v := by
  induction h generalizing limit with
  | null => exact .null limit
  | bool b => exact .bool limit b
  | int => exact .int limit _
  | string s => exact .string limit s
  | array _ ih =>
    rw [depth] at hdepth
    obtain ⟨limit, rfl⟩ : ∃ k, limit = k + 1 := ⟨limit - 1, by omega⟩
    exact .array fun v hv =>
      ih v hv (Nat.le_trans (depth_le_itemsDepth v hv) (Nat.le_of_succ_le_succ hdepth))
  | object _ ih =>
    rw [depth] at hdepth
    obtain ⟨limit, rfl⟩ : ∃ k, limit = k + 1 := ⟨limit - 1, by omega⟩
    exact .object fun field hfield =>
      ih field hfield (Nat.le_trans (depth_le_fieldsDepth field hfield)
        (Nat.le_of_succ_le_succ hdepth))

/-- What is bounded and in order is admitted as it is. -/
theorem Bounded.admissible {limit : Nat} {v : Json} (h : Bounded limit v) (horder : v.InOrder) :
    Admissible limit v := by
  induction h with
  | null limit => exact .null limit
  | bool limit b => exact .bool limit b
  | int limit n => exact .int limit n
  | float limit finite => exact .float limit finite
  | string limit s => exact .string limit s
  | array _ ih =>
    cases horder with
    | array hitems => exact .array fun v hv => ih v hv (hitems v hv)
  | object _ ih =>
    cases horder with
    | object order hfields =>
      exact .object ((Fields.ascending_iff _).mpr order) fun field hfield =>
        ih field hfield (hfields field hfield)

theorem Whole.legible {v : Json} (h : v.Whole) : v.Legible := by
  induction h with
  | null => exact .null
  | bool b => exact .bool b
  | int lower upper => exact .number (Number.legible_int lower upper).1
  | string s => exact .string s
  | array _ ih => exact .array ih
  | object _ ih => exact .object ih

theorem rereadItems_eq_self {items : List Json} (h : ∀ v ∈ items, v.reread = v) :
    rereadItems items = items := by
  induction items with
  | nil => rfl
  | cons v items ih =>
    obtain ⟨hv, hitems⟩ := List.forall_mem_cons.mp h
    rw [rereadItems, hv, ih hitems]

theorem Fields.mapValues_eq_self {f : Json → Json} {fields : Fields}
    (h : ∀ field ∈ fields, f field.2 = field.2) : fields.mapValues f = fields := by
  refine (List.map_congr_left fun field hfield => ?_).trans (List.map_id fields)
  exact Prod.ext rfl (h field hfield)

/-- Integers of 64 bits are read as they are written, wherever they stand. -/
theorem Whole.reread_eq {v : Json} (h : v.Whole) : v.reread = v := by
  induction h with
  | null => rw [reread]
  | bool => rw [reread]
  | int lower upper => rw [reread, (Number.legible_int lower upper).2]
  | string => rw [reread]
  | array _ ih => rw [reread, rereadItems_eq_self ih]
  | object _ ih => rw [reread, rereadFields_eq, Fields.mapValues_eq_self ih]

/-- The text of a document without doubles spells that document. -/
theorem Whole.spells_write {v : Json} (h : v.Whole) : Spells (Text.Utf8.encode (write v)) v := by
  have hspells := Json.spells_write h.legible
  rwa [h.reread_eq] at hspells

theorem Whole.readable {v : Json} (h : v.Whole) {limit : Nat} (hadmissible : Admissible limit v) :
    Readable limit v :=
  ⟨h.legible, h.reread_eq.symm ▸ hadmissible⟩

/-! ### Documents that are settled -/

/-- The last binding of a key. -/
def LastBinding (bindings : List (String × Json)) (key : String) (v : Json) : Prop :=
  ∃ before after, bindings = before ++ (key, v) :: after ∧ key ∉ after.map (·.1)

/-- A document and what it is settled to: item by item and key by key, with the keys of objects in
the order of their bytes, and each of them bound to the last of its values. -/
inductive Settles : Json → Json → Prop where
  | null : Settles .null .null
  | bool (b : Bool) : Settles (.bool b) (.bool b)
  | number (n : Number) : Settles (.number n) (.number n)
  | string (s : String) : Settles (.string s) (.string s)
  | array {items settled : List Json} (length : settled.length = items.length)
    (item : ∀ (i : Nat) (v w : Json), items[i]? = some v → settled[i]? = some w → Settles v w) :
    Settles (.array items) (.array settled)
  | object {bindings : List (String × Json)} {fields : Fields} (order : fields.ByteAscending)
    (keys : ∀ key, key ∈ fields.map (·.1) ↔ key ∈ bindings.map (·.1))
    (last : ∀ key v w, LastBinding bindings key v → (key, w) ∈ fields → Settles v w) :
    Settles (.object bindings) (.object fields)

variable {bindings : List (String × Json)} {key : String} {v : Json}

theorem LastBinding.mem (h : LastBinding bindings key v) : (key, v) ∈ bindings := by
  obtain ⟨before, after, rfl, -⟩ := h
  exact List.mem_append_right before List.mem_cons_self

theorem LastBinding.get?_ofList (h : LastBinding bindings key v) :
    (Fields.ofList bindings).get? key = some v := by
  obtain ⟨before, after, rfl, hafter⟩ := h
  have hnone : List.lookup key after.reverse = none :=
    Fields.lookup_of_not_mem (by rwa [List.map_reverse, List.mem_reverse])
  rw [Fields.get?_ofList, List.reverse_append, List.reverse_cons, List.append_assoc,
    List.lookup_append, hnone, Option.none_or]
  exact List.lookup_cons_self

theorem LastBinding.mapValues (h : LastBinding bindings key v) (f : Json → Json) :
    LastBinding (Fields.mapValues f bindings) key (f v) := by
  obtain ⟨before, after, rfl, hafter⟩ := h
  refine ⟨Fields.mapValues f before, Fields.mapValues f after, ?_, ?_⟩
  · rw [Fields.mapValues, List.map_append, List.map_cons]
    rfl
  · rw [Fields.mapValues, List.map_map]
    exact hafter

theorem Fields.get?_of_mem {fields : Fields} (h : fields.Ascending) (hmem : (key, v) ∈ fields) :
    fields.get? key = some v :=
  lookup_of_mem (h.imp fun hlt => String.ne_of_lt hlt) hmem

theorem Fields.mem_iff_get? {fields : Fields} (h : fields.Ascending) :
    (key, v) ∈ fields ↔ fields.get? key = some v := by
  refine ⟨get?_of_mem h, fun hget => ?_⟩
  obtain ⟨before, after, rfl, -⟩ := List.lookup_eq_some_iff.mp hget
  exact List.mem_append_right before List.mem_cons_self

/-- Fields in order are told by what their keys are bound to. -/
theorem Fields.eq_of_get? {fields fields' : Fields} (h : fields.Ascending)
    (h' : fields'.Ascending) (hget : ∀ key, fields.get? key = fields'.get? key) :
    fields = fields' := by
  have hnodup : ∀ {fields : Fields}, fields.Ascending → fields.Nodup := fun h =>
    (List.pairwise_map.mp h).imp fun hlt heq => String.ne_of_lt hlt (congrArg Prod.fst heq)
  refine List.Perm.eq_of_pairwise ?_ (List.pairwise_map.mp h) (List.pairwise_map.mp h')
    ((List.perm_ext_iff_of_nodup (hnodup h) (hnodup h')).mpr fun field => ?_)
  · exact fun a b _ _ hab hba => absurd hba (String.lt_asymm hab)
  · rw [mem_iff_get? h, mem_iff_get? h', hget]

/-- The keys that are bound are those on the list. -/
theorem Fields.mem_keys_ofList :
    key ∈ (ofList bindings).map (·.1) ↔ key ∈ bindings.map (·.1) := by
  constructor
  · intro h
    obtain ⟨field, hfield, rfl⟩ := List.mem_map.mp h
    exact List.mem_map_of_mem (mem_ofList hfield)
  · intro h
    by_contra hnot
    have hnone : get? (ofList bindings) key = none := lookup_of_not_mem hnot
    rw [get?_ofList, List.lookup_eq_none_iff] at hnone
    obtain ⟨field, hfield, rfl⟩ := List.mem_map.mp h
    exact bne_iff_ne.mp (hnone field (List.mem_reverse.mpr hfield)) rfl

theorem orderedFields_eq (fields : Fields) : orderedFields fields = fields.mapValues ordered := by
  induction fields with
  | nil => rfl
  | cons field fields ih =>
    rw [orderedFields, ih]
    rfl

theorem orderedItems_eq (items : List Json) : orderedItems items = items.map ordered := by
  induction items with
  | nil => rfl
  | cons v items ih => rw [orderedItems, ih, List.map_cons]

/-- Putting the objects of a document in order settles it. -/
theorem settles_ordered (v : Json) : Settles v v.ordered := by
  induction v using Json.induction with
  | null => rw [ordered]; exact .null
  | bool b => rw [ordered]; exact .bool b
  | number n => rw [ordered]; exact .number n
  | string s => rw [ordered]; exact .string s
  | array items ih =>
    rw [ordered, orderedItems_eq]
    refine .array (List.length_map _) fun i v w hv hw => ?_
    rw [List.getElem?_map, hv, Option.map_some, Option.some.injEq] at hw
    exact hw ▸ ih v (List.mem_of_getElem? hv)
  | object bindings ih =>
    rw [ordered, orderedFields_eq, ofBindings]
    have hascending := Fields.ascending_ofList (Fields.mapValues ordered bindings)
    refine .object ((Fields.ascending_iff _).mp hascending) (fun key => ?_) ?_
    · rw [Fields.mem_keys_ofList, Fields.mapValues, List.map_map]
      rfl
    · intro key v w hlast hmem
      have hget := (hlast.mapValues ordered).get?_ofList
      rw [Fields.get?_of_mem hascending hmem, Option.some.injEq] at hget
      exact hget ▸ ih _ hlast.mem

theorem exists_lastBinding (h : key ∈ bindings.map (·.1)) : ∃ v, LastBinding bindings key v := by
  induction bindings with
  | nil => exact absurd h List.not_mem_nil
  | cons binding bindings ih =>
    by_cases hlater : key ∈ bindings.map (·.1)
    · obtain ⟨v, before, after, rfl, hafter⟩ := ih hlater
      exact ⟨v, binding :: before, after, rfl, hafter⟩
    · obtain rfl := (List.mem_cons.mp h).resolve_right hlater
      exact ⟨binding.2, [], bindings, rfl, hlater⟩

/-- There is no other document that it is settled to. -/
theorem Settles.eq_ordered {v w : Json} (h : Settles v w) : w = v.ordered := by
  induction h with
  | null => rw [ordered]
  | bool => rw [ordered]
  | number => rw [ordered]
  | string => rw [ordered]
  | @array items settled length item ih =>
    rw [ordered, orderedItems_eq]
    refine congrArg Json.array (List.ext_getElem (by rw [length, List.length_map]) ?_)
    intro i hi hi'
    rw [List.getElem_map]
    exact ih i _ _ (List.getElem?_eq_getElem _) (List.getElem?_eq_getElem hi)
  | @object bindings fields order keys last ih =>
    rw [ordered, orderedFields_eq, ofBindings]
    have hascending := (Fields.ascending_iff fields).mpr order
    refine congrArg Json.object (Fields.eq_of_get? hascending (Fields.ascending_ofList _) ?_)
    intro key
    by_cases hkey : key ∈ fields.map (·.1)
    · obtain ⟨v, hlast⟩ := exists_lastBinding ((keys key).mp hkey)
      obtain ⟨⟨_, w⟩, hmem, rfl⟩ := List.mem_map.mp hkey
      rw [Fields.get?_of_mem hascending hmem, (hlast.mapValues ordered).get?_ofList,
        ih _ v w hlast hmem]
    · have hother : key ∉ (Fields.ofList (Fields.mapValues ordered bindings)).map (·.1) := by
        rw [Fields.mem_keys_ofList, Fields.mapValues, List.map_map]
        exact fun h => hkey ((keys key).mpr h)
      exact (Fields.lookup_of_not_mem hkey).trans (Fields.lookup_of_not_mem hother).symm

/-- **A document is settled by putting its objects in order**, and in no other way. -/
theorem settles_iff {v w : Json} : Settles v w ↔ w = v.ordered := by
  refine ⟨Settles.eq_ordered, ?_⟩
  rintro rfl
  exact settles_ordered v

/-- A bounded document is admitted again when its objects have been put in order. -/
theorem Bounded.admissible_ordered {limit : Nat} {v : Json} (h : Bounded limit v) :
    Admissible limit v.ordered := by
  induction h with
  | null limit => rw [ordered]; exact .null limit
  | bool limit b => rw [ordered]; exact .bool limit b
  | int limit n => rw [ordered]; exact .int limit n
  | float limit finite => rw [ordered]; exact .float limit finite
  | string limit s => rw [ordered]; exact .string limit s
  | array _ ih =>
    rw [ordered, orderedItems_eq]
    exact .array (List.forall_mem_map.mpr ih)
  | object _ ih =>
    rw [ordered, orderedFields_eq]
    refine .object (Fields.ascending_ofList _) fun field hfield => ?_
    obtain ⟨other, hother, rfl⟩ := List.mem_map.mp (Fields.mem_ofList hfield)
    exact ih other hother

end QueueDrain.Json
