import QueueDrain.Proofs.Json.Grammar

/-!
Which documents are admitted.

The reader admits a document if it is `Bounded`: its numbers are finite and its arrays and objects
are nested within a limit; it gives the document with the fields of all objects in order (`ordered`,
`admit?_eq_some_iff`).  So bytes are read as an object if they spell a bounded one (`SpellsObject`,
`object?_parseBytes?_eq_some_iff`).

At the end, there are objects that are spelled and are not read: one with too many arrays
(`spells_nested`), and one with too large a number (`spells_huge`).
-/

namespace QueueDrain.Json

/-- A document with finite numbers, nested within a limit. -/
inductive Bounded : (limit : Nat) → Json → Prop where
  | null (limit : Nat) : Bounded limit .null
  | bool (limit : Nat) (b : Bool) : Bounded limit (.bool b)
  | int (limit : Nat) (n : Int) : Bounded limit (.number (.int n))
  | float (limit : Nat) {x : Binary64} (finite : x.isFinite) : Bounded limit (.number (.float x))
  | string (limit : Nat) (s : String) : Bounded limit (.string s)
  | array {limit : Nat} {items : List Json} (h : ∀ v ∈ items, Bounded limit v) :
    Bounded (limit + 1) (.array items)
  | object {limit : Nat} {fields : List (String × Json)}
    (h : ∀ field ∈ fields, Bounded limit field.2) : Bounded (limit + 1) (.object fields)

mutual

/-- A document with the fields of its objects in order; of several fields of one key the last
counts. -/
def ordered : Json → Json
  | .null => .null
  | .bool b => .bool b
  | .number n => .number n
  | .string s => .string s
  | .array items => .array (orderedItems items)
  | .object fields => ofBindings (orderedFields fields)

def orderedItems : List Json → List Json
  | [] => []
  | v :: items => v.ordered :: orderedItems items

def orderedFields : List (String × Json) → List (String × Json)
  | [] => []
  | (key, v) :: fields => (key, v.ordered) :: orderedFields fields

end

/-- The document is admitted exactly if it is bounded, and then in order. -/
def Admits (limit : Nat) (v : Json) : Prop :=
  ∀ w, admit? limit v = some w ↔ Bounded limit v ∧ w = v.ordered

theorem admitItems?_eq_some_iff {limit : Nat} {items ws : List Json}
    (h : ∀ v ∈ items, Admits limit v) :
    admitItems? limit items = some ws ↔
      (∀ v ∈ items, Bounded limit v) ∧ ws = orderedItems items := by
  induction items generalizing ws with
  | nil => simp [admitItems?, orderedItems, eq_comm]
  | cons v items ih =>
    obtain ⟨hv, hitems⟩ := List.forall_mem_cons.mp h
    rw [admitItems?, orderedItems, List.forall_mem_cons]
    constructor
    · intro hadmitted
      split at hadmitted
      next w ws' hw hws =>
        cases hadmitted
        obtain ⟨hbounded, rfl⟩ := (hv w).mp hw
        obtain ⟨hall, rfl⟩ := (ih hitems).mp hws
        exact ⟨⟨hbounded, hall⟩, rfl⟩
      next => cases hadmitted
    · rintro ⟨⟨hbounded, hall⟩, rfl⟩
      rw [(hv _).mpr ⟨hbounded, rfl⟩, (ih hitems).mpr ⟨hall, rfl⟩]

theorem admitFields?_eq_some_iff {limit : Nat} {fields ws : List (String × Json)}
    (h : ∀ field ∈ fields, Admits limit field.2) :
    admitFields? limit fields = some ws ↔
      (∀ field ∈ fields, Bounded limit field.2) ∧ ws = orderedFields fields := by
  induction fields generalizing ws with
  | nil => simp [admitFields?, orderedFields, eq_comm]
  | cons field fields ih =>
    obtain ⟨key, v⟩ := field
    obtain ⟨hv, hfields⟩ := List.forall_mem_cons.mp h
    rw [admitFields?, orderedFields, List.forall_mem_cons]
    constructor
    · intro hadmitted
      split at hadmitted
      next w ws' hw hws =>
        cases hadmitted
        obtain ⟨hbounded, rfl⟩ := (hv w).mp hw
        obtain ⟨hall, rfl⟩ := (ih hfields).mp hws
        exact ⟨⟨hbounded, hall⟩, rfl⟩
      next => cases hadmitted
    · rintro ⟨⟨hbounded, hall⟩, rfl⟩
      rw [(hv _).mpr ⟨hbounded, rfl⟩, (ih hfields).mpr ⟨hall, rfl⟩]

theorem admits_self {limit : Nat} {v : Json} (hadmitted : admit? limit v = some v)
    (hbounded : Bounded limit v) (hordered : v.ordered = v) : Admits limit v := by
  intro w
  rw [hadmitted, hordered, Option.some.injEq, eq_comm]
  exact ⟨fun h => ⟨hbounded, h⟩, And.right⟩

/-- **What is admitted**: the documents that are bounded, in order. -/
theorem admit?_eq_some_iff {limit : Nat} {v w : Json} :
    admit? limit v = some w ↔ Bounded limit v ∧ w = v.ordered := by
  suffices hall : ∀ limit, Admits limit v from hall limit w
  clear limit w
  induction v using Json.induction with
  | null => exact fun limit => admits_self (by rw [admit?]) (.null limit) (by rw [ordered])
  | bool b => exact fun limit => admits_self (by rw [admit?]) (.bool limit b) (by rw [ordered])
  | string s => exact fun limit => admits_self (by rw [admit?]) (.string limit s) (by rw [ordered])
  | number n =>
    intro limit
    cases n with
    | int n => exact admits_self (by rw [admit?]) (.int limit n) (by rw [ordered])
    | float x =>
      by_cases hfinite : x.isFinite
      · exact admits_self (by rw [admit?, if_pos hfinite]) (.float limit hfinite) (by rw [ordered])
      · intro w
        rw [admit?, if_neg hfinite]
        refine iff_of_false (Option.some_ne_none w).symm fun h => ?_
        cases h.1 with
        | float _ finite => exact hfinite finite
  | array items ih =>
    intro limit w
    cases limit with
    | zero =>
      rw [admit?]
      refine iff_of_false (Option.some_ne_none w).symm fun h => ?_
      cases h.1
    | succ limit =>
      rw [admit?, Option.map_eq_some_iff, ordered]
      constructor
      · rintro ⟨ws, hws, rfl⟩
        obtain ⟨hall, rfl⟩ := (admitItems?_eq_some_iff fun v hv => ih v hv limit).mp hws
        exact ⟨.array hall, rfl⟩
      · rintro ⟨hbounded, rfl⟩
        cases hbounded with
        | array hall =>
          exact ⟨_, (admitItems?_eq_some_iff fun v hv => ih v hv limit).mpr ⟨hall, rfl⟩, rfl⟩
  | object fields ih =>
    intro limit w
    cases limit with
    | zero =>
      rw [admit?]
      refine iff_of_false (Option.some_ne_none w).symm fun h => ?_
      cases h.1
    | succ limit =>
      rw [admit?, Option.map_eq_some_iff, ordered]
      constructor
      · rintro ⟨ws, hws, rfl⟩
        obtain ⟨hall, rfl⟩ := (admitFields?_eq_some_iff fun f hf => ih f hf limit).mp hws
        exact ⟨.object hall, rfl⟩
      · rintro ⟨hbounded, rfl⟩
        cases hbounded with
        | object hall =>
          exact ⟨_, (admitFields?_eq_some_iff fun f hf => ih f hf limit).mpr ⟨hall, rfl⟩, rfl⟩

/-! ### Objects that are read -/

/-- The bytes spell an object that is bounded, and these are its fields in order. -/
def SpellsObject (bytes : List UInt8) (fields : Fields) : Prop :=
  ∃ bindings, Spells bytes (.object bindings) ∧ Bounded nestingLimit (.object bindings) ∧
    fields = .ofList (orderedFields bindings)

/-- **Bytes are read as the fields of an object** if they spell an object that is bounded. -/
theorem object?_parseBytes?_eq_some_iff {bytes : List UInt8} {fields : Fields} :
    (parseBytes? bytes).bind object? = some fields ↔ SpellsObject bytes fields := by
  rw [Option.bind_eq_some_iff]
  simp only [parseBytes?_eq_some_iff, admit?_eq_some_iff]
  constructor
  · rintro ⟨_, ⟨document, hspells, hbounded, rfl⟩, hobject⟩
    cases document with
    | object bindings =>
      rw [ordered] at hobject
      cases hobject
      exact ⟨bindings, hspells, hbounded, rfl⟩
    | null | bool | number | string | array =>
      rw [ordered] at hobject
      cases hobject
  · rintro ⟨bindings, hspells, hbounded, rfl⟩
    refine ⟨_, ⟨.object bindings, hspells, hbounded, rfl⟩, ?_⟩
    rw [ordered]
    rfl

/-- Bytes do not spell two documents. -/
theorem Spells.unique {bytes : List UInt8} {v w : Json} (hv : Spells bytes v)
    (hw : Spells bytes w) : v = w := by
  obtain ⟨s, hs, hv⟩ := spells_iff.mp hv
  obtain ⟨t, ht, hw⟩ := spells_iff.mp hw
  cases hs.symm.trans ht
  exact Option.some.inj (hv.symm.trans hw)

/-- An object that is not bounded is not read. -/
theorem not_spellsObject {bytes : List UInt8} {bindings : List (String × Json)}
    (hspells : Spells bytes (.object bindings))
    (hbounded : ¬Bounded nestingLimit (.object bindings)) (fields : Fields) :
    ¬SpellsObject bytes fields := by
  rintro ⟨bindings', hspells', hbounded', -⟩
  cases hspells.unique hspells'
  exact hbounded hbounded'

/-! ### Objects that are not read -/

/-- An array inside so many others. -/
def nested : Nat → Json
  | 0 => .array []
  | n + 1 => .array [nested n]

theorem not_bounded_nested (n : Nat) : ¬Bounded n (nested n) := by
  induction n with
  | zero => exact fun h => nomatch h
  | succ n ih =>
    intro h
    cases h with
    | array hall => exact ih (hall _ List.mem_cons_self)

theorem legible_nested (n : Nat) : (nested n).Legible := by
  induction n with
  | zero => exact .array nofun
  | succ n ih => exact .array (List.forall_mem_singleton.mpr ih)

theorem reread_nested (n : Nat) : (nested n).reread = nested n := by
  induction n with
  | zero => rfl
  | succ n ih => rw [nested, reread, rereadItems, ih, rereadItems]

/-- The text of a document spells it, if its numbers are legible. -/
theorem spells_write {v : Json} (h : v.Legible) : Spells (Text.Utf8.encode (write v)) v.reread :=
  spells_iff.mpr ⟨write v, Text.Utf8.decode?_encode (write v), parseRaw?_write h⟩

/-- The bytes of an object with a field that has `n` arrays around an array. -/
def nestedBytes (n : Nat) : List UInt8 :=
  Text.Utf8.encode (write (.object [("a", nested n)]))

theorem spells_nested (n : Nat) : Spells (nestedBytes n) (.object [("a", nested n)]) := by
  have hspells := spells_write (.object (List.forall_mem_singleton.mpr (legible_nested n)) :
    Legible (.object [("a", nested n)]))
  rwa [reread, rereadFields, reread_nested, rereadFields] at hspells

theorem not_bounded_nested_field {limit : Nat} (key : String) :
    ¬Bounded (limit + 1) (.object [(key, nested limit)]) := by
  intro h
  cases h with
  | object hall => exact not_bounded_nested limit (hall _ List.mem_cons_self)

/-- A power of ten that is no double is no number either. -/
theorem ofLiteral?_power {e : Nat} (h : Literal.greatestPower < e) :
    Number.ofLiteral? ⟨false, [1], none, some e⟩ = none := by
  have hscale : Literal.scale? (.ofNat 1) e = none := by
    have hone : (Binary64.ofNat 1).isZero = false := by decide +kernel
    have hle : ¬(e : Int).natAbs ≤ Literal.greatestPower := by
      rw [Int.natAbs_natCast]
      omega
    rw [Literal.scale?, if_neg hle, hone, if_neg Bool.false_ne_true,
      if_pos (Int.natCast_nonneg e)]
  have hone : Literal.absorb 0 [1] = (1, []) := by decide
  have hnil : Literal.absorb 1 [] = (1, []) := rfl
  simp [Number.ofLiteral?, Literal.double?, hone, hnil, hscale]

/-- A number that is larger than all doubles. -/
def huge : Token.Numeral := ⟨false, ['1'], none, some (false, ['9', '9', '9'])⟩

theorem huge_proper : huge.Proper where
  whole_ne := List.cons_ne_nil _ _
  whole := List.all_eq_true.mp rfl
  zero h := absurd (Option.some.inj h) (by decide)
  fraction := nofun
  exponent e he := by
    cases he
    exact ⟨List.cons_ne_nil _ _, List.all_eq_true.mp rfl⟩

/-- It is a token all the same, and infinite. -/
theorem lexes_huge {rest : List Char} {tokens : List Token} (hrest : Token.Stops rest)
    (more : Lexes rest tokens) :
    Lexes (huge.text ++ rest) (.number (.float (.infinity false)) :: tokens) := by
  refine Lexes.append (by decide) ?_ more
  have hliteral := Token.Numeral.scanLiteral_text huge_proper hrest
  have hscan := Token.Numeral.scan_of_scanLiteral (Or.inr (by decide)) hliteral
  rw [show huge.literal = ⟨false, [1], none, some (999 : Nat)⟩ from rfl,
    ofLiteral?_power (by decide)] at hscan
  exact hscan

/-- The bytes of an object with a field that is such a number. -/
def hugeBytes : List UInt8 := Text.Utf8.encode "\x7b\"a\":1e+999\x7d".toList

theorem spells_of_lexes {s : List Char} {v : Json} (h : Lexes s v.tokens) :
    Spells (Text.Utf8.encode s) v := by
  refine spells_iff.mpr ⟨s, Text.Utf8.decode?_encode s, ?_⟩
  rw [parseRaw?, h.tokens?, Option.bind_some, ofTokens?_tokens]

theorem spells_huge : Spells hugeBytes (.object [("a", .number (.float (.infinity false)))]) := by
  refine spells_of_lexes ?_
  have hnumber := lexes_huge (Token.stops_cons (by decide)) (.mark (c := '\x7d') rfl .nil)
  exact .mark (c := '\x7b') rfl (.writeString "a" (.mark (c := ':') rfl hnumber))

theorem not_bounded_huge {limit : Nat} (key : String) :
    ¬Bounded limit (.object [(key, .number (.float (.infinity false)))]) := by
  intro h
  cases h with
  | object hall =>
    cases hall _ List.mem_cons_self with
    | float _ finite => exact absurd finite (by decide)

end QueueDrain.Json
