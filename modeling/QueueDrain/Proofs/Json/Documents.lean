import QueueDrain.Json.Parser
import QueueDrain.Proofs.Json.Fields
import QueueDrain.Proofs.Json.Scan
import QueueDrain.Proofs.Text.Utf8

/-!
Documents that were written and are read again.

A document is read as what it was, with every number as its own text is read (`reread`), provided
that its numbers are legible (`parseRaw?_write`): its text is cut into its tokens (`writes_write`),
and these make up the document (`Reading.takes`).  If the result may be admitted, that is what is
read (`parse?_write`).
-/

namespace QueueDrain.Json

/-- What holds of all documents if it holds of a document that consists of such ones. -/
theorem induction {P : Json → Prop} (null : P .null) (bool : ∀ b, P (.bool b))
    (number : ∀ n, P (.number n)) (string : ∀ s, P (.string s))
    (array : ∀ items, (∀ v ∈ items, P v) → P (.array items))
    (object : ∀ fields : Fields, (∀ field ∈ fields, P field.2) → P (.object fields)) (v : Json) :
    P v :=
  Json.rec (motive_1 := P) (motive_2 := fun items => ∀ v ∈ items, P v)
    (motive_3 := fun fields => ∀ field ∈ fields, P field.2) (motive_4 := fun field => P field.2)
    null bool number string array object (fun _ h => nomatch h)
    (fun _ _ hhead htail => List.forall_mem_cons.mpr ⟨hhead, htail⟩) (fun _ h => nomatch h)
    (fun _ _ hhead htail => List.forall_mem_cons.mpr ⟨hhead, htail⟩) (fun _ _ h => h) v

/-! ### Numbers that can be read -/

/-- What the text of a number is read as. -/
def Number.reread (n : Number) : Number :=
  match Token.scan n.text.toList with
  | some (.number m, _) => m
  | _ => n

/-- The text of a number is read as a number, whatever comes after it. -/
def Number.Legible (n : Number) : Prop :=
  ∀ rest, Token.Stops rest → Token.scan (n.text.toList ++ rest) = some (.number n.reread, rest)

theorem Number.legible_of_scan {n m : Number}
    (h : ∀ rest, Token.Stops rest → Token.scan (n.text.toList ++ rest) = some (.number m, rest)) :
    n.Legible ∧ n.reread = m := by
  have hreread : n.reread = m := by
    have hscan := h [] trivial
    rw [List.append_nil] at hscan
    rw [reread, hscan]
  refine ⟨fun rest hrest => ?_, hreread⟩
  rw [hreread]
  exact h rest hrest

/-- Integers of 64 bits keep their value. -/
theorem Number.legible_int {n : Int} (hlow : -(Text.int64Limit : Int) ≤ n)
    (hhigh : n < UInt64.size) : (Number.int n).Legible ∧ (Number.int n).reread = .int n :=
  legible_of_scan fun _ hrest => Token.Numeral.scan_int hlow hhigh hrest

/-- All numbers of a document are legible. -/
inductive Legible : Json → Prop where
  | null : Legible .null
  | bool (b : Bool) : Legible (.bool b)
  | number {n : Number} (h : n.Legible) : Legible (.number n)
  | string (s : String) : Legible (.string s)
  | array {items : List Json} (h : ∀ v ∈ items, Legible v) : Legible (.array items)
  | object {fields : Fields} (h : ∀ field ∈ fields, Legible field.2) : Legible (.object fields)

mutual

/-- A document with its numbers as they are read. -/
def reread : Json → Json
  | .null => .null
  | .bool b => .bool b
  | .number n => .number n.reread
  | .string s => .string s
  | .array items => .array (rereadItems items)
  | .object fields => .object (rereadFields fields)

def rereadItems : List Json → List Json
  | [] => []
  | v :: items => v.reread :: rereadItems items

def rereadFields : List (String × Json) → List (String × Json)
  | [] => []
  | (k, v) :: fields => (k, v.reread) :: rereadFields fields

end

theorem rereadFields_eq (fields : Fields) : rereadFields fields = fields.mapValues reread := by
  induction fields with
  | nil => rfl
  | cons field fields ih =>
    rw [rereadFields, ih]
    rfl

/-! ### From texts to tokens -/

section

variable {scan : List Char → Option (Token × List Char)} {fuel : Nat} {c : Char} {s : List Char}
  {tokens : List Token}

theorem tokensWithin_of_space (h : Token.isSpace c = true) :
    tokensWithin scan (fuel + 1) (c :: s) = tokensWithin scan fuel s := by
  rw [tokensWithin, if_pos h]

theorem tokensWithin_of_token (hspace : ¬Token.isSpace c = true) {token : Token} {rest : List Char}
    (hscan : scan (c :: s) = some (token, rest))
    (hmore : tokensWithin scan fuel rest = some tokens) :
    tokensWithin scan (fuel + 1) (c :: s) = some (token :: tokens) := by
  rw [tokensWithin, if_neg hspace, hscan]
  dsimp only
  rw [hmore, Option.map_some]

/-- What does not start with a blank starts with the first of its tokens. -/
theorem exists_of_tokensWithin (hspace : ¬Token.isSpace c = true)
    (h : tokensWithin scan (fuel + 1) (c :: s) = some tokens) :
    ∃ token rest more, scan (c :: s) = some (token, rest) ∧
      tokensWithin scan fuel rest = some more ∧ tokens = token :: more := by
  rw [tokensWithin, if_neg hspace] at h
  split at h
  next => cases h
  next token rest hscan =>
    obtain ⟨more, hmore, rfl⟩ := Option.map_eq_some_iff.mp h
    exact ⟨token, rest, more, hscan, hmore, rfl⟩

end

/-- A text is cut into tokens. -/
inductive Lexes : List Char → List Token → Prop where
  | nil : Lexes [] []
  | token {c : Char} {s rest : List Char} {token : Token} {tokens : List Token}
    (space : Token.isSpace c = false) (scan : Token.scan (c :: s) = some (token, rest))
    (shorter : rest.length ≤ s.length) (more : Lexes rest tokens) :
    Lexes (c :: s) (token :: tokens)

theorem Lexes.tokensWithin {s : List Char} {tokens : List Token} (h : Lexes s tokens) {fuel : Nat}
    (hfuel : s.length ≤ fuel) : tokensWithin Token.scan fuel s = some tokens := by
  induction h generalizing fuel with
  | nil => cases fuel <;> rfl
  | token space scan shorter more ih =>
    rw [List.length_cons] at hfuel
    -- every token takes a character, so the fuel lasts as long as the text
    obtain ⟨fuel, rfl⟩ : ∃ k, fuel = k + 1 := ⟨fuel - 1, by omega⟩
    exact tokensWithin_of_token (Bool.eq_false_iff.mp space) scan (ih (by omega))

theorem Lexes.tokens? {s : List Char} {tokens : List Token} (h : Lexes s tokens) :
    tokens? s = some tokens :=
  h.tokensWithin (Nat.le_refl _)

mutual

/-- The tokens of a document. -/
def tokens : Json → List Token
  | .null => [.null]
  | .bool b => [.bool b]
  | .number n => [.number n]
  | .string s => [.string s]
  | .array items => .openArray :: (itemTokens items ++ [.closeArray])
  | .object fields => .openObject :: (fieldTokens fields ++ [.closeObject])

def itemTokens : List Json → List Token
  | [] => []
  | [v] => tokens v
  | v :: w :: items => tokens v ++ .comma :: itemTokens (w :: items)

def fieldTokens : List (String × Json) → List Token
  | [] => []
  | [(k, v)] => .string k :: .colon :: tokens v
  | (k, v) :: f :: fields =>
    .string k :: .colon :: (tokens v ++ .comma :: fieldTokens (f :: fields))

end

theorem isSpace_cases {c : Char} (h : Token.isSpace c) :
    c = ' ' ∨ c = '\n' ∨ c = '\t' ∨ c = '\r' := by
  simpa [Token.isSpace, or_assoc] using h

/-- No token starts with a blank. -/
theorem scan_space {c : Char} (h : Token.isSpace c) (s : List Char) :
    Token.scan (c :: s) = none := by
  rcases isSpace_cases h with rfl | rfl | rfl | rfl <;> rfl

/-- A token at the start of a text, whose end does not depend on what follows. -/
theorem Lexes.append {s rest : List Char} {token : Token} {tokens : List Token} (hne : s ≠ [])
    (hscan : Token.scan (s ++ rest) = some (token, rest)) (more : Lexes rest tokens) :
    Lexes (s ++ rest) (token :: tokens) := by
  obtain ⟨c, s, rfl⟩ := List.exists_cons_of_ne_nil hne
  have hspace : Token.isSpace c = false := by
    refine Bool.eq_false_iff.mpr fun h => ?_
    rw [List.cons_append, scan_space h] at hscan
    cases hscan
  refine .token hspace hscan ?_ more
  show rest.length ≤ (s ++ rest).length
  rw [List.length_append]
  exact Nat.le_add_left _ _

theorem Lexes.mark {c : Char} {token : Token} {rest : List Char} {tokens : List Token}
    (hscan : Token.scan (c :: rest) = some (token, rest)) (more : Lexes rest tokens) :
    Lexes (c :: rest) (token :: tokens) :=
  .append (s := [c]) (List.cons_ne_nil c []) hscan more

theorem Lexes.writeString (k : String) {rest : List Char} {tokens : List Token}
    (more : Lexes rest tokens) : Lexes (writeString k ++ rest) (.string k :: tokens) :=
  .append (List.cons_ne_nil _ _) (Token.scan_writeString k rest) more

/-- A text is cut into tokens wherever it stands before something that stops a number. -/
def Writes (s : List Char) (tokens : List Token) : Prop :=
  ∀ rest more, Token.Stops rest → Lexes rest more → Lexes (s ++ rest) (tokens ++ more)

theorem writes_writeItems {items : List Json}
    (h : ∀ v ∈ items, Writes (write v) v.reread.tokens) :
    Writes (writeItems items) (itemTokens (rereadItems items)) := by
  intro rest more hrest hmore
  induction items with
  | nil => exact hmore
  | cons v items ih =>
    obtain ⟨hv, hitems⟩ := List.forall_mem_cons.mp h
    -- a comma after a value stops the number that may end the value
    rcases items with _ | ⟨w, items⟩
    · exact hv rest more hrest hmore
    · have hvalue := hv _ _ (Token.stops_cons (by decide)) (Lexes.mark (c := ',') rfl (ih hitems))
      rw [writeItems, rereadItems, rereadItems, itemTokens, List.append_assoc, List.append_assoc]
      exact hvalue

theorem writes_writeFields {fields : Fields}
    (h : ∀ field ∈ fields, Writes (write field.2) field.2.reread.tokens) :
    Writes (writeFields fields) (fieldTokens (rereadFields fields)) := by
  intro rest more hrest hmore
  induction fields with
  | nil => exact hmore
  | cons field fields ih =>
    obtain ⟨k, v⟩ := field
    obtain ⟨hv, hfields⟩ := List.forall_mem_cons.mp h
    rcases fields with _ | ⟨f, fields⟩
    · have hvalue := Lexes.writeString k (Lexes.mark (c := ':') rfl (hv rest more hrest hmore))
      rw [writeFields, List.append_assoc]
      exact hvalue
    · obtain ⟨k', w⟩ := f
      have hrec := hv _ _ (Token.stops_cons (by decide)) (Lexes.mark (c := ',') rfl (ih hfields))
      have hfield := Lexes.writeString k (Lexes.mark (c := ':') rfl hrec)
      rw [writeFields, rereadFields, rereadFields, fieldTokens, List.append_assoc,
        List.cons_append, List.append_assoc, List.cons_append, List.cons_append, List.cons_append,
        List.append_assoc]
      exact hfield

/-- The text of a document is cut into the tokens of the document as it is read. -/
theorem writes_write {v : Json} (h : v.Legible) : Writes (write v) v.reread.tokens := by
  induction h with
  | null => exact fun rest more _ hmore => .append (s := write .null) (by decide) rfl hmore
  | bool b =>
    cases b
    · exact fun rest more _ hmore => .append (s := write (.bool false)) (by decide) rfl hmore
    · exact fun rest more _ hmore => .append (s := write (.bool true)) (by decide) rfl hmore
  | @number n h =>
    intro rest more hrest hmore
    -- a text that is scanned as a number is not empty
    refine .append (fun hnil => ?_) (h rest hrest) hmore
    have hscan := h [] trivial
    rw [List.append_nil, show n.text.toList = [] from hnil] at hscan
    cases hscan
  | string s => exact fun rest more _ hmore => .writeString s hmore
  | @array items _ ih =>
    intro rest more hrest hmore
    have hitems := writes_writeItems ih _ _ (Token.stops_cons (by decide))
      (Lexes.mark (c := ']') rfl hmore)
    have hdocument := Lexes.mark (c := '[') rfl hitems
    rw [write, reread, tokens, List.cons_append, List.append_assoc, List.cons_append,
      List.cons_append, List.append_assoc]
    exact hdocument
  | @object fields _ ih =>
    intro rest more hrest hmore
    have hfields := writes_writeFields ih _ _ (Token.stops_cons (by decide))
      (Lexes.mark (c := '\x7d') rfl hmore)
    have hdocument := Lexes.mark (c := '\x7b') rfl hfields
    rw [write, reread, tokens, List.cons_append, List.append_assoc, List.cons_append,
      List.cons_append, List.append_assoc]
    exact hdocument

/-! ### From tokens to documents -/

namespace Reading

/-- A value may come next. -/
inductive TakesValue : Reading → Prop where
  | before : TakesValue .before
  | start (items : List Json) (outer : List Frame) :
    TakesValue (.inside (.array items .start) outer)
  | afterComma (items : List Json) (outer : List Frame) :
    TakesValue (.inside (.array items .afterComma) outer)
  | value (fields : List (String × Json)) (key : String) (outer : List Frame) :
    TakesValue (.inside (.value fields key) outer)

/-- The frames that are open. -/
def frames : Reading → List Frame
  | .inside frame outer => frame :: outer
  | _ => []

variable {r : Reading}

theorem run_append (r : Reading) (first second : List Token) :
    r.run (first ++ second) = (r.run first).bind (·.run second) := by
  induction first generalizing r with
  | nil => rfl
  | cons token first ih =>
    rw [List.cons_append, run, run, Option.bind_assoc]
    exact congrArg _ (funext fun r => ih r)

theorem run_one (r : Reading) (token : Token) : r.run [token] = r.step token := by
  rw [run]
  rcases r.step token with _ | r <;> rfl

theorem enter_of_takesValue (h : r.TakesValue) (frame : Frame) :
    r.enter frame = some (.inside frame r.frames) := by
  cases h <;> rfl

theorem leave_frames (h : r.TakesValue) (v : Json) : leave v r.frames = r.put v := by
  cases h <;> rfl

/-- The tokens of a value are taken as that value. -/
def Takes (v : Json) : Prop := ∀ r : Reading, r.TakesValue → r.run v.tokens = r.put v

theorem run_itemTokens {items : List Json} (h : ∀ v ∈ items, Takes v) (hne : items ≠ [])
    (read : List Json) (outer : List Frame) {place : Place}
    (hplace : TakesValue (.inside (.array read place) outer)) :
    (inside (.array read place) outer).run (itemTokens items) =
      some (inside (.array (items.reverse ++ read) .afterValue) outer) := by
  induction items generalizing read place with
  | nil => exact absurd rfl hne
  | cons v items ih =>
    obtain ⟨hv, hitems⟩ := List.forall_mem_cons.mp h
    -- what has been read is kept in reverse, the last value first
    have hput : (inside (.array read place) outer).put v =
        some (inside (.array (v :: read) .afterValue) outer) := by
      cases hplace <;> rfl
    rcases items with _ | ⟨w, items⟩
    · exact (hv _ hplace).trans hput
    · rw [itemTokens, run_append, hv _ hplace, hput, Option.bind_some, run, step, Option.bind_some,
        ih hitems (List.cons_ne_nil _ _) _ (.afterComma _ _)]
      simp

theorem run_fieldTokens {fields : Fields} (h : ∀ field ∈ fields, Takes field.2) (hne : fields ≠ [])
    (read : List (String × Json)) (outer : List Frame) {place : Place}
    (hplace : place = .start ∨ place = .afterComma) :
    (inside (.object read place) outer).run (fieldTokens fields) =
      some (inside (.object (fields.reverse ++ read) .afterValue) outer) := by
  induction fields generalizing read place with
  | nil => exact absurd rfl hne
  | cons field fields ih =>
    obtain ⟨k, v⟩ := field
    obtain ⟨hv, hfields⟩ := List.forall_mem_cons.mp h
    have hkey : ∀ tokens, (inside (.object read place) outer).run (.string k :: .colon :: tokens) =
        (inside (.value read k) outer).run tokens := by
      intro tokens
      rcases hplace with rfl | rfl <;> rfl
    have hput : (inside (.value read k) outer).put v =
        some (inside (.object ((k, v) :: read) .afterValue) outer) := rfl
    rcases fields with _ | ⟨f, fields⟩
    · rw [fieldTokens, hkey, hv _ (.value _ _ _), hput]
      rfl
    · rw [fieldTokens, hkey, run_append, hv _ (.value _ _ _), hput, Option.bind_some, run, step,
        Option.bind_some, ih hfields (List.cons_ne_nil _ _) _ (Or.inr rfl)]
      simp

theorem takes (v : Json) : Takes v := by
  induction v using Json.induction with
  | null => exact fun r hr => by cases hr <;> rfl
  | bool b => exact fun r hr => by cases hr <;> rfl
  | number n => exact fun r hr => by cases hr <;> rfl
  | string s => exact fun r hr => by cases hr <;> rfl
  | array items ih =>
    intro r hr
    have hclose : ∀ {read place}, place = .start ∨ place = .afterValue →
        (inside (.array read place) r.frames).run [.closeArray] = r.put (.array read.reverse) := by
      intro read place hplace
      rcases hplace with rfl | rfl <;> rw [run_one, step, leave_frames hr]
    -- an array without items is closed at its start, any other after a value
    rw [tokens, run, step, enter_of_takesValue hr, Option.bind_some, run_append]
    rcases items with _ | ⟨v, items⟩
    · exact hclose (Or.inl rfl)
    · rw [run_itemTokens ih (List.cons_ne_nil _ _) [] r.frames (.start _ _), Option.bind_some,
        hclose (Or.inr rfl)]
      simp
  | object fields ih =>
    intro r hr
    have hclose : ∀ {read place}, place = .start ∨ place = .afterValue →
        (inside (.object read place) r.frames).run [.closeObject] =
          r.put (.object read.reverse) := by
      intro read place hplace
      rcases hplace with rfl | rfl <;> rw [run_one, step, leave_frames hr]
    rw [tokens, run, step, enter_of_takesValue hr, Option.bind_some, run_append]
    rcases fields with _ | ⟨f, fields⟩
    · exact hclose (Or.inl rfl)
    · rw [run_fieldTokens ih (List.cons_ne_nil _ _) [] r.frames (Or.inl rfl), Option.bind_some,
        hclose (Or.inr rfl)]
      simp

end Reading

theorem ofTokens?_tokens (v : Json) : ofTokens? v.tokens = some v := by
  rw [ofTokens?, Reading.takes v _ .before]
  rfl

/-- **A document with legible numbers is read as it was written**, up to its numbers. -/
theorem parseRaw?_write {v : Json} (h : v.Legible) : parseRaw? (write v) = some v.reread := by
  have hlexes := writes_write h [] [] trivial .nil
  rw [List.append_nil, List.append_nil] at hlexes
  rw [parseRaw?, hlexes.tokens?, Option.bind_some, ofTokens?_tokens]

/-! ### Admission -/

/-- A document in order, with finite numbers, nested within a limit. -/
inductive Admissible : (limit : Nat) → Json → Prop where
  | null (limit : Nat) : Admissible limit .null
  | bool (limit : Nat) (b : Bool) : Admissible limit (.bool b)
  | int (limit : Nat) (n : Int) : Admissible limit (.number (.int n))
  | float (limit : Nat) {x : Binary64} (finite : x.isFinite) :
    Admissible limit (.number (.float x))
  | string (limit : Nat) (s : String) : Admissible limit (.string s)
  | array {limit : Nat} {items : List Json} (h : ∀ v ∈ items, Admissible limit v) :
    Admissible (limit + 1) (.array items)
  | object {limit : Nat} {fields : Fields} (order : fields.Ascending)
    (h : ∀ field ∈ fields, Admissible limit field.2) : Admissible (limit + 1) (.object fields)

theorem admitItems?_eq {limit : Nat} {items : List Json}
    (h : ∀ v ∈ items, admit? limit v = some v) : admitItems? limit items = some items := by
  induction items with
  | nil => rfl
  | cons v items ih =>
    obtain ⟨hv, hitems⟩ := List.forall_mem_cons.mp h
    rw [admitItems?, hv, ih hitems]

theorem admitFields?_eq {limit : Nat} {fields : Fields}
    (h : ∀ field ∈ fields, admit? limit field.2 = some field.2) :
    admitFields? limit fields = some fields := by
  induction fields with
  | nil => rfl
  | cons field fields ih =>
    obtain ⟨k, v⟩ := field
    obtain ⟨hv, hfields⟩ := List.forall_mem_cons.mp h
    rw [admitFields?, hv, ih hfields]

/-- What may be admitted is admitted as it is. -/
theorem admit?_eq {limit : Nat} {v : Json} (h : Admissible limit v) : admit? limit v = some v := by
  induction h with
  | null => rw [admit?]
  | bool => rw [admit?]
  | int => rw [admit?]
  | float _ finite => rw [admit?, if_pos finite]
  | string => rw [admit?]
  | array _ ih => rw [admit?, admitItems?_eq ih, Option.map_some]
  | object order _ ih =>
    rw [admit?, admitFields?_eq ih, Option.map_some, ofBindings, Fields.ofList_of_ascending order]

/-- A document that can be read and admitted, nested within a limit. -/
structure Readable (limit : Nat) (v : Json) : Prop where
  legible : v.Legible
  admissible : Admissible limit v.reread

theorem parse?_write {v : Json} (h : Readable nestingLimit v) :
    parse? (write v) = some v.reread := by
  rw [parse?, parseRaw?_write h.legible, Option.bind_some, admit?_eq h.admissible]

/-- Integers of 64 bits are read as they are. -/
theorem reread_ofNat {n : Nat} (h : n < UInt64.size) : (Json.ofNat n).reread = .ofNat n := by
  have hlow : -(Text.int64Limit : Int) ≤ n := by omega
  rw [ofNat, reread, (Number.legible_int hlow (Int.ofNat_lt.mpr h)).2]

theorem readable_ofNat (limit : Nat) {n : Nat} (h : n < UInt64.size) :
    Readable limit (.ofNat n) := by
  have hlow : -(Text.int64Limit : Int) ≤ n := by omega
  refine ⟨.number (Number.legible_int hlow (Int.ofNat_lt.mpr h)).1, ?_⟩
  rw [reread_ofNat h]
  exact .int limit n

theorem readable_null (limit : Nat) : Readable limit .null :=
  ⟨.null, by rw [reread]; exact .null limit⟩

theorem readable_bool (limit : Nat) (b : Bool) : Readable limit (.bool b) :=
  ⟨.bool b, by rw [reread]; exact .bool limit b⟩

theorem readable_string (limit : Nat) (s : String) : Readable limit (.string s) :=
  ⟨.string s, by rw [reread]; exact .string limit s⟩

theorem readable_object {limit : Nat} {fields : Fields} (order : fields.Ascending)
    (h : ∀ field ∈ fields, Readable limit field.2) : Readable (limit + 1) (.object fields) := by
  refine ⟨.object fun field hfield => (h field hfield).legible, ?_⟩
  rw [reread, rereadFields_eq]
  refine .object (Fields.ascending_mapValues reread order) fun field hfield => ?_
  obtain ⟨other, hother, rfl⟩ := List.mem_map.mp hfield
  exact (h other hother).admissible

theorem readable_ofBindings {limit : Nat} {bindings : List (String × Json)}
    (h : ∀ binding ∈ bindings, Readable limit binding.2) :
    Readable (limit + 1) (ofBindings bindings) :=
  readable_object (Fields.ascending_ofList bindings) fun field hfield =>
    h field (Fields.mem_ofList hfield)

/-- **Bytes of an object are read as its fields**, up to their numbers. -/
theorem parseBytes?_text {fields : Fields} (h : Readable nestingLimit (.object fields)) :
    (parseBytes? (Text.Utf8.encode fields.text.toList)).bind object? =
      some (fields.mapValues reread) := by
  rw [Fields.text, text, String.toList_ofList, parseBytes?, Text.Utf8.decode?_encode,
    Option.bind_some, parse?_write h, Option.bind_some, reread, rereadFields_eq]
  rfl

end QueueDrain.Json
