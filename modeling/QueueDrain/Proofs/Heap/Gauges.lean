import QueueDrain.Heap.Measurement
import QueueDrain.Proofs.Json.Sketch

/-!
What a gauge shows.

The rules for a gauge are stated for any way to read the keys of its records (`Shows`): the keys of
a document are their own texts, and those of a sketch are legible or not.  What is read from a
sketch is what it shows (`readGauge?_eq_some_iff`, `readGauge?_of_shows`), and a document shows the
same as its sketch (`shows_iff_of_sketches`).
-/

namespace QueueDrain.Heap

open Json (Sketches FieldSketches)

/-- A value of a measurement: null, or a number in the range of doubles. -/
inductive Scalar : Json → Option Binary64 → Prop where
  | null : Scalar .null none
  | number {n : Json.Number} (finite : n.toFloat.isFinite = true) :
    Scalar (.number n) (some n.toFloat)

section Rules

variable (read : String → Option String)

/-- The fields of a record, and the same fields with the texts of their keys. -/
def Texts (fields texts : List (String × Json)) : Prop :=
  List.Forall₂ (fun field text => read field.1 = some text.1 ∧ field.2 = text.2) fields texts

/-- A measurement and its value; there is none if the value is left out or null. -/
inductive Measurement : Json → Option Binary64 → Prop where
  | absent {fields texts : List (String × Json)} (keys : Texts read fields texts)
    (values : valuesOf "value" texts = []) : Measurement (.object fields) none
  | object {fields texts : List (String × Json)} {v : Json} {x : Option Binary64}
    (keys : Texts read fields texts) (values : valuesOf "value" texts = [v])
    (value : Scalar v x) : Measurement (.object fields) x
  | array {v : Json} {x : Option Binary64} (value : Scalar v x) : Measurement (.array [v]) x

/-- A gauge and its list of measurements. -/
inductive Measurements : Json → List Json → Prop where
  | object {fields texts : List (String × Json)} {items : List Json}
    (keys : Texts read fields texts) (values : valuesOf "measurements" texts = [.array items]) :
    Measurements (.object fields) items
  | array (items : List Json) : Measurements (.array [.array items]) items

/-- A gauge whose measurements have values, the first of them this one. -/
def Shows (gauge : Json) (first : Option Binary64) : Prop :=
  ∃ items values, Measurements read gauge items ∧
    List.Forall₂ (Measurement read) items (first :: values)

end Rules

/-! ### Sketches -/

theorem readValue?_eq_some_iff {v : Json} {x : Option Binary64} :
    readValue? v = some x ↔ Scalar v x := by
  constructor
  · intro h
    cases v with
    | null =>
      cases h
      exact .null
    | number n =>
      rw [readValue?] at h
      split at h
      next hfinite =>
        cases h
        exact .number hfinite
      next => cases h
    | bool | string | array | object => cases h
  · intro h
    cases h with
    | null => rfl
    | number hfinite => rw [readValue?, if_pos hfinite]

theorem mapM_eq_some_iff {α β : Type} {f : α → Option β} {xs : List α} {ys : List β} :
    xs.mapM f = some ys ↔ List.Forall₂ (fun x y => f x = some y) xs ys := by
  induction xs generalizing ys with
  | nil =>
    rw [List.mapM_nil, List.forall₂_nil_left_iff]
    exact ⟨fun h => (Option.some.inj h).symm, fun h => congrArg some h.symm⟩
  | cons x xs ih =>
    simp only [List.mapM_cons, Option.bind_eq_bind, Option.bind_eq_some_iff, Option.pure_def,
      Option.some.injEq, List.forall₂_cons_left_iff]
    constructor
    · rintro ⟨y, hy, ys, hys, rfl⟩
      exact ⟨y, ys, hy, ih.mp hys, rfl⟩
    · rintro ⟨y, ys, hy, hys, rfl⟩
      exact ⟨y, hy, ys, ih.mpr hys, rfl⟩

theorem legible?_eq_some_iff {fields texts : List (String × Json)} :
    legible? fields = some texts ↔ Texts Json.Lexeme.read? fields texts := by
  have hfield : ∀ field text : String × Json,
      (Json.Lexeme.read? field.1).map (·, field.2) = some text ↔
        Json.Lexeme.read? field.1 = some text.1 ∧ field.2 = text.2 := by
    rintro ⟨lexeme, v⟩ ⟨text, v'⟩
    simp [Option.map_eq_some_iff]
  rw [legible?, mapM_eq_some_iff, Texts]
  exact ⟨fun h => h.imp fun field text => (hfield field text).mp,
    fun h => h.imp fun field text => (hfield field text).mpr⟩

theorem readMeasurement?_eq_some_iff {m : Json} {x : Option Binary64} :
    readMeasurement? m = some x ↔ Measurement Json.Lexeme.read? m x := by
  constructor
  · intro h
    cases m with
    | object fields =>
      rw [readMeasurement?] at h
      split at h
      next hvalues =>
        obtain ⟨texts, htexts, hvalues⟩ := Option.map_eq_some_iff.mp hvalues
        cases h
        exact .absent (legible?_eq_some_iff.mp htexts) hvalues
      next v hvalues =>
        obtain ⟨texts, htexts, hvalues⟩ := Option.map_eq_some_iff.mp hvalues
        exact .object (legible?_eq_some_iff.mp htexts) hvalues (readValue?_eq_some_iff.mp h)
      next => cases h
    | array items =>
      match items, h with
      | [v], h => exact .array (readValue?_eq_some_iff.mp h)
    | null | bool | number | string => cases h
  · intro h
    cases h with
    | absent hkeys hvalues =>
      rw [readMeasurement?, legible?_eq_some_iff.mpr hkeys, Option.map_some, hvalues]
    | object hkeys hvalues hvalue =>
      rw [readMeasurement?, legible?_eq_some_iff.mpr hkeys, Option.map_some, hvalues]
      exact readValue?_eq_some_iff.mpr hvalue
    | array hvalue => exact readValue?_eq_some_iff.mpr hvalue

theorem measurements?_eq_some_cons_iff {gauge m : Json} {items : List Json} :
    measurements? gauge = some (m :: items) ↔
      Measurements Json.Lexeme.read? gauge (m :: items) := by
  constructor
  · intro h
    cases gauge with
    | object fields =>
      rw [measurements?] at h
      split at h
      next => cases h
      next items' hvalues =>
        obtain ⟨texts, htexts, hvalues⟩ := Option.map_eq_some_iff.mp hvalues
        cases h
        exact .object (legible?_eq_some_iff.mp htexts) hvalues
      next => cases h
    | array items' =>
      match items', h with
      | [.array items'], h =>
        cases h
        exact .array _
    | null | bool | number | string => cases h
  · intro h
    cases h with
    | object hkeys hvalues =>
      rw [measurements?, legible?_eq_some_iff.mpr hkeys, Option.map_some, hvalues]
    | array => rfl

theorem mapM_readMeasurement?_eq_some_iff {items : List Json} {values : List (Option Binary64)} :
    items.mapM readMeasurement? = some values ↔
      List.Forall₂ (Measurement Json.Lexeme.read?) items values := by
  rw [mapM_eq_some_iff]
  exact ⟨fun h => h.imp fun _ _ => readMeasurement?_eq_some_iff.mp,
    fun h => h.imp fun _ _ => readMeasurement?_eq_some_iff.mpr⟩

theorem readGauge?_eq_bind (sketch : Json) :
    readGauge? sketch = (measurements? sketch).bind fun items =>
      (items.mapM readMeasurement?).bind fun values => values.head?.join := rfl

/-- **What a sketch shows is read from it.** -/
theorem readGauge?_of_shows {sketch : Json} {first : Option Binary64}
    (h : Shows Json.Lexeme.read? sketch first) : readGauge? sketch = first := by
  obtain ⟨items, values, hitems, hvalues⟩ := h
  cases hvalues with
  | cons hm hrest =>
    rw [readGauge?_eq_bind, measurements?_eq_some_cons_iff.mpr hitems, Option.bind_some,
      mapM_readMeasurement?_eq_some_iff.mpr (.cons hm hrest), Option.bind_some]
    rfl

/-- **A value that is read from a sketch is what the sketch shows.** -/
theorem readGauge?_eq_some_iff {sketch : Json} {x : Binary64} :
    readGauge? sketch = some x ↔ Shows Json.Lexeme.read? sketch (some x) := by
  refine ⟨fun h => ?_, readGauge?_of_shows⟩
  rw [readGauge?_eq_bind] at h
  obtain ⟨items, hitems, h⟩ := Option.bind_eq_some_iff.mp h
  obtain ⟨values, hvalues, hfirst⟩ := Option.bind_eq_some_iff.mp h
  have hall := mapM_readMeasurement?_eq_some_iff.mp hvalues
  cases hall with
  | nil => cases hfirst
  | @cons m value items values hm hrest =>
    obtain rfl : value = some x := by
      cases value with
      | none => cases hfirst
      | some y => exact hfirst
    exact ⟨m :: items, values, measurements?_eq_some_cons_iff.mp hitems, .cons hm hrest⟩

/-! ### Records with the same parts -/

theorem forall₂_singleton_left {α β : Type} {R : α → β → Prop} {a : α} {l : List β}
    (h : List.Forall₂ R [a] l) : ∃ b, l = [b] ∧ R a b := by
  obtain ⟨b, rest, hb, hrest, rfl⟩ := List.forall₂_cons_left_iff.mp h
  obtain rfl := List.forall₂_nil_left_iff.mp hrest
  exact ⟨b, rfl, hb⟩

/-- Whatever a document shows if its keys are read by `read`, every document that is related to it
shows if its keys are read by `read'`. -/
structure Carries (read read' : String → Option String) (R : Json → Json → Prop) : Prop where
  scalar : ∀ {v v' x}, R v v' → Scalar v x → Scalar v' x
  array : ∀ {items v'}, R (.array items) v' → ∃ items', v' = .array items' ∧
    List.Forall₂ R items items'
  object : ∀ {fields texts v'}, R (.object fields) v' → Texts read fields texts →
    ∃ fields' texts', v' = .object fields' ∧ Texts read' fields' texts' ∧
      ∀ key, List.Forall₂ R (valuesOf key texts) (valuesOf key texts')

namespace Carries

variable {read read' : String → Option String} {R : Json → Json → Prop}

theorem measurement (h : Carries read read' R) {m m' : Json} (hrel : R m m')
    {x : Option Binary64} (hm : Measurement read m x) : Measurement read' m' x := by
  cases hm with
  | absent hkeys hvalues =>
    obtain ⟨fields', texts', rfl, hkeys', hrels⟩ := h.object hrel hkeys
    exact .absent hkeys' (List.forall₂_nil_left_iff.mp (hvalues ▸ hrels "value"))
  | object hkeys hvalues hscalar =>
    obtain ⟨fields', texts', rfl, hkeys', hrels⟩ := h.object hrel hkeys
    obtain ⟨v', hvalues', hv⟩ := forall₂_singleton_left (hvalues ▸ hrels "value")
    exact .object hkeys' hvalues' (h.scalar hv hscalar)
  | array hscalar =>
    obtain ⟨items', rfl, hitems⟩ := h.array hrel
    obtain ⟨v', rfl, hv⟩ := forall₂_singleton_left hitems
    exact .array (h.scalar hv hscalar)

theorem measurements (h : Carries read read' R) {gauge gauge' : Json} (hrel : R gauge gauge')
    {items : List Json} (hitems : Measurements read gauge items) :
    ∃ items', Measurements read' gauge' items' ∧ List.Forall₂ R items items' := by
  cases hitems with
  | object hkeys hvalues =>
    obtain ⟨fields', texts', rfl, hkeys', hrels⟩ := h.object hrel hkeys
    obtain ⟨v', hvalues', hv⟩ := forall₂_singleton_left (hvalues ▸ hrels "measurements")
    obtain ⟨items', rfl, hitems⟩ := h.array hv
    exact ⟨items', .object hkeys' hvalues', hitems⟩
  | array =>
    obtain ⟨outer, rfl, houter⟩ := h.array hrel
    obtain ⟨v', rfl, hv⟩ := forall₂_singleton_left houter
    obtain ⟨items', rfl, hitems⟩ := h.array hv
    exact ⟨items', .array items', hitems⟩

theorem values (h : Carries read read' R) {items items' : List Json}
    (hrels : List.Forall₂ R items items') {xs : List (Option Binary64)}
    (hvalues : List.Forall₂ (Measurement read) items xs) :
    List.Forall₂ (Measurement read') items' xs := by
  induction hvalues generalizing items' with
  | nil =>
    obtain rfl := List.forall₂_nil_left_iff.mp hrels
    exact .nil
  | cons hm _ ih =>
    obtain ⟨m', rest, hrel, hrest, rfl⟩ := List.forall₂_cons_left_iff.mp hrels
    exact .cons (h.measurement hrel hm) (ih hrest)

theorem shows (h : Carries read read' R) {gauge gauge' : Json} (hrel : R gauge gauge')
    {first : Option Binary64} (hshows : Shows read gauge first) : Shows read' gauge' first := by
  obtain ⟨items, values, hitems, hvalues⟩ := hshows
  obtain ⟨items', hitems', hrels⟩ := h.measurements hrel hitems
  exact ⟨items', values, hitems', h.values hrels hvalues⟩

end Carries

/-! ### Documents and their sketches -/

/-- The keys of a document are their own texts. -/
theorem texts_some_iff {fields texts : List (String × Json)} :
    Texts some fields texts ↔ texts = fields := by
  have hfield : (fun field text : String × Json => some field.1 = some text.1 ∧ field.2 = text.2)
      = Eq := by
    funext field text
    rw [Option.some.injEq, Prod.ext_iff]
  rw [Texts, hfield, List.forall₂_eq_eq_eq, eq_comm]

theorem valuesOf_cons_of_eq {text key : String} (h : text = key) (v : Json)
    (fields : List (String × Json)) :
    valuesOf key ((text, v) :: fields) = v :: valuesOf key fields := by
  simp [valuesOf, h]

theorem valuesOf_cons_of_ne {text key : String} (h : text ≠ key) (v : Json)
    (fields : List (String × Json)) :
    valuesOf key ((text, v) :: fields) = valuesOf key fields := by
  simp [valuesOf, h]

/-- All keys of the sketch of an object are legible, and what they are bound to is the sketch of
what they are bound to in the object. -/
theorem exists_texts {fields fields' : List (String × Json)}
    (h : List.Forall₂ FieldSketches fields fields') :
    ∃ texts, Texts Json.Lexeme.read? fields' texts ∧
      ∀ key, List.Forall₂ Sketches (valuesOf key fields) (valuesOf key texts) := by
  induction h with
  | nil => exact ⟨[], .nil, fun _ => .nil⟩
  | @cons field field' fields fields' hfield _ ih =>
    obtain ⟨texts, htexts, hvalues⟩ := ih
    cases hfield with
    | @field text lexeme v v' hkey hvalue =>
      refine ⟨(text, v') :: texts, .cons ⟨hkey, rfl⟩ htexts, fun key => ?_⟩
      by_cases heq : text = key
      · rw [valuesOf_cons_of_eq heq, valuesOf_cons_of_eq heq]
        exact .cons hvalue (hvalues key)
      · rw [valuesOf_cons_of_ne heq, valuesOf_cons_of_ne heq]
        exact hvalues key

theorem carries_sketches : Carries some Json.Lexeme.read? Sketches where
  scalar h hscalar := by
    cases hscalar with
    | null =>
      cases h with
      | null => exact .null
    | number hfinite =>
      cases h with
      | number => exact .number hfinite
  array h := by
    cases h with
    | array hitems => exact ⟨_, rfl, hitems⟩
  object h hkeys := by
    obtain rfl := texts_some_iff.mp hkeys
    cases h with
    | object hfields =>
      obtain ⟨texts', htexts, hvalues⟩ := exists_texts hfields
      exact ⟨_, texts', rfl, htexts, hvalues⟩

theorem carries_flip_sketches : Carries Json.Lexeme.read? some (flip Sketches) where
  scalar h hscalar := by
    cases hscalar with
    | null =>
      cases h with
      | null => exact .null
    | number hfinite =>
      cases h with
      | number => exact .number hfinite
  array h := by
    cases h with
    | array hitems => exact ⟨_, rfl, hitems.flip⟩
  object h hkeys := by
    cases h with
    | object hfields =>
      obtain ⟨texts', htexts, hvalues⟩ := exists_texts hfields
      -- a sketch has only one reading of its keys
      obtain rfl : texts' = _ := Option.some.inj
        ((legible?_eq_some_iff.mpr htexts).symm.trans (legible?_eq_some_iff.mpr hkeys))
      exact ⟨_, _, rfl, texts_some_iff.mpr rfl, fun key => (hvalues key).flip⟩

/-- **A document shows what its sketch shows.** -/
theorem shows_iff_of_sketches {document sketch : Json} (h : Sketches document sketch)
    {first : Option Binary64} :
    Shows some document first ↔ Shows Json.Lexeme.read? sketch first :=
  ⟨carries_sketches.shows h, carries_flip_sketches.shows h⟩

end QueueDrain.Heap
