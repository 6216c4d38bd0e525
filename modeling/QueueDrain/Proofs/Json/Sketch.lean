import Mathlib.Data.List.Forall2
import QueueDrain.Proofs.Json.Grammar
import QueueDrain.Proofs.Json.Lexemes

/-!
Sketches of documents that are legible throughout.

A document that can be read in full also has a sketch (`Spells.exists_sketch`), which is the same
document with its strings as they are written (`Sketches`).  The tokens of the text and of its bytes
go together one by one (`exists_sketches`), and each of them takes the reader of the document as far
as that of the sketch (`Reading.Sketches.step`).
-/

namespace QueueDrain.Json

open Text.Utf8

/-! ### Texts -/

theorem tokensWithin_mono {scan : List Char → Option (Token × List Char)} {fuel fuel' : Nat}
    {s : List Char} {tokens : List Token} (h : tokensWithin scan fuel s = some tokens)
    (hle : fuel ≤ fuel') : tokensWithin scan fuel' s = some tokens := by
  induction fuel generalizing fuel' s tokens with
  | zero =>
    cases s with
    | nil =>
      rw [tokensWithin] at h ⊢
      exact h
    | cons c s => cases h
  | succ fuel ih =>
    obtain ⟨fuel', rfl⟩ : ∃ k, fuel' = k + 1 := ⟨fuel' - 1, by omega⟩
    cases s with
    | nil => exact h
    | cons c s =>
      by_cases hspace : Token.isSpace c = true
      · rw [tokensWithin_of_space hspace] at h ⊢
        exact ih h (by omega)
      · obtain ⟨token, rest, more, hscan, hmore, rfl⟩ := exists_of_tokensWithin hspace h
        exact tokensWithin_of_token hspace hscan (ih hmore (by omega))

theorem isSmall_of_isSpace {c : Char} (h : Token.isSpace c = true) : IsSmall c := by
  obtain rfl | rfl | rfl | rfl := isSpace_cases h <;> decide

/-- The tokens of a text are found in its bytes, one for one. -/
theorem exists_sketches {fuel : Nat} {s : List Char} {tokens : List Token}
    (h : tokensWithin Token.scan fuel s = some tokens) :
    ∃ tokens', tokensWithin Token.sketch fuel (bytewise s) = some tokens' ∧
      List.Forall₂ Token.Sketches tokens tokens' := by
  induction fuel generalizing s tokens with
  | zero =>
    cases s with
    | nil =>
      cases h
      exact ⟨[], by rw [bytewise_nil, tokensWithin], .nil⟩
    | cons c s => cases h
  | succ fuel ih =>
    cases s with
    | nil =>
      cases h
      exact ⟨[], by rw [bytewise_nil, tokensWithin], .nil⟩
    | cons c s =>
      by_cases hspace : Token.isSpace c = true
      · rw [tokensWithin_of_space hspace] at h
        obtain ⟨tokens', htokens, hsketches⟩ := ih h
        refine ⟨tokens', ?_, hsketches⟩
        rw [bytewise_cons (isSmall_of_isSpace hspace), tokensWithin_of_space hspace, htokens]
      · obtain ⟨token, rest, more, hscan, hmore, rfl⟩ := exists_of_tokensWithin hspace h
        obtain ⟨more', hmore', hsketches⟩ := ih hmore
        obtain ⟨token', hsketch, htoken⟩ := Token.exists_sketch hscan
        refine ⟨token' :: more', ?_, .cons htoken hsketches⟩
        obtain ⟨d, t, hbytes, hd⟩ : ∃ d t, bytewise (c :: s) = d :: t ∧
            ¬Token.isSpace d = true := by
          by_cases hc : IsSmall c
          · exact ⟨c, bytewise s, bytewise_cons hc s, hspace⟩
          · obtain ⟨d, t, heq, hd⟩ := exists_bytewise_eq_cons hc s
            exact ⟨d, t, heq, fun hd' => hd (isSmall_of_isSpace hd')⟩
        rw [hbytes] at hsketch ⊢
        exact tokensWithin_of_token hd hsketch hmore'

/-! ### Documents -/

mutual

/-- A document, and the same document as a sketch. -/
inductive Sketches : Json → Json → Prop where
  | null : Sketches .null .null
  | bool (b : Bool) : Sketches (.bool b) (.bool b)
  | number (n : Number) : Sketches (.number n) (.number n)
  | string {text lexeme : String} (h : Lexeme.read? lexeme = some text) :
    Sketches (.string text) (.string lexeme)
  | array {items items' : List Json} (h : List.Forall₂ Sketches items items') :
    Sketches (.array items) (.array items')
  | object {fields fields' : List (String × Json)} (h : List.Forall₂ FieldSketches fields fields') :
    Sketches (.object fields) (.object fields')

/-- A field, and the same field of a sketch. -/
inductive FieldSketches : String × Json → String × Json → Prop where
  | field {text lexeme : String} {v v' : Json} (key : Lexeme.read? lexeme = some text)
    (value : Sketches v v') : FieldSketches (text, v) (lexeme, v')

end

/-- A frame, and the same frame of a sketch. -/
inductive FrameSketches : Frame → Frame → Prop where
  | array {items items' : List Json} (h : List.Forall₂ Sketches items items') (place : Place) :
    FrameSketches (.array items place) (.array items' place)
  | object {fields fields' : List (String × Json)} (h : List.Forall₂ FieldSketches fields fields')
    (place : Place) : FrameSketches (.object fields place) (.object fields' place)
  | key {fields fields' : List (String × Json)} {text lexeme : String}
    (h : List.Forall₂ FieldSketches fields fields') (key : Lexeme.read? lexeme = some text) :
    FrameSketches (.key fields text) (.key fields' lexeme)
  | value {fields fields' : List (String × Json)} {text lexeme : String}
    (h : List.Forall₂ FieldSketches fields fields') (key : Lexeme.read? lexeme = some text) :
    FrameSketches (.value fields text) (.value fields' lexeme)

namespace Reading

/-- Where a reader is in a document, and where it is in the sketch of it. -/
inductive Sketches : Reading → Reading → Prop where
  | before : Sketches .before .before
  | inside {frame frame' : Frame} {outer outer' : List Frame}
    (hframe : FrameSketches frame frame') (houter : List.Forall₂ FrameSketches outer outer') :
    Sketches (.inside frame outer) (.inside frame' outer')
  | done {v v' : Json} (h : Json.Sketches v v') : Sketches (.done v) (.done v')

variable {r r' : Reading}

theorem Sketches.put (h : Sketches r r') {v v' : Json} (hv : Json.Sketches v v') :
    Option.Rel Sketches (r.put v) (r'.put v') := by
  cases h with
  | before => exact .some (.done hv)
  | done => exact .none
  | inside frame outer =>
    cases frame with
    | array h place =>
      cases place with
      | start => exact .some (.inside (.array (.cons hv h) _) outer)
      | afterComma => exact .some (.inside (.array (.cons hv h) _) outer)
      | afterValue => exact .none
    | object => exact .none
    | key => exact .none
    | value h key => exact .some (.inside (.object (.cons (.field key hv) h) _) outer)

theorem Sketches.enter (h : Sketches r r') {frame frame' : Frame}
    (hframe : FrameSketches frame frame') :
    Option.Rel Sketches (r.enter frame) (r'.enter frame') := by
  cases h with
  | before => exact .some (.inside hframe .nil)
  | done => exact .none
  | inside current outer =>
    cases current with
    | array h place =>
      cases place with
      | start => exact .some (.inside hframe (.cons (.array h _) outer))
      | afterComma => exact .some (.inside hframe (.cons (.array h _) outer))
      | afterValue => exact .none
    | object => exact .none
    | key => exact .none
    | value h key => exact .some (.inside hframe (.cons (.value h key) outer))

theorem sketches_leave {v v' : Json} (hv : Json.Sketches v v') {outer outer' : List Frame}
    (h : List.Forall₂ FrameSketches outer outer') :
    Option.Rel Sketches (leave v outer) (leave v' outer') := by
  cases h with
  | nil => exact .some (.done hv)
  | cons frame outer => exact (Sketches.inside frame outer).put hv

/-- **A token takes the reader of a document as far as that of its sketch.** -/
theorem Sketches.step (h : Sketches r r') {token token' : Token}
    (htoken : Token.Sketches token token') :
    Option.Rel Sketches (r.step token) (r'.step token') := by
  cases htoken with
  | string hkey =>
    have hput := h.put (.string hkey)
    cases h with
    | before => exact hput
    | done => exact hput
    | inside frame outer =>
      cases frame with
      | object h place =>
        cases place with
        | start => exact .some (.inside (.key h hkey) outer)
        | afterComma => exact .some (.inside (.key h hkey) outer)
        | afterValue => exact hput
      | array h place => cases place <;> exact hput
      | key => exact hput
      | value => exact hput
  | mark hmark =>
    cases token with
    | openArray => exact h.enter (.array .nil _)
    | openObject => exact h.enter (.object .nil _)
    | null => exact h.put .null
    | bool b => exact h.put (.bool b)
    | number n => exact h.put (.number n)
    | string s => exact absurd rfl (hmark s)
    | closeArray =>
      cases h with
      | inside frame outer =>
        cases frame with
        | array h place =>
          have hleave := sketches_leave (.array (List.rel_reverse h)) outer
          cases place with
          | start => exact hleave
          | afterValue => exact hleave
          | afterComma => exact .none
        | object | key | value => exact .none
      | before | done => exact .none
    | closeObject =>
      cases h with
      | inside frame outer =>
        cases frame with
        | object h place =>
          have hleave := sketches_leave (.object (List.rel_reverse h)) outer
          cases place with
          | start => exact hleave
          | afterValue => exact hleave
          | afterComma => exact .none
        | array | key | value => exact .none
      | before | done => exact .none
    | comma =>
      cases h with
      | inside frame outer =>
        cases frame with
        | array h place =>
          cases place with
          | afterValue => exact .some (.inside (.array h _) outer)
          | start | afterComma => exact .none
        | object h place =>
          cases place with
          | afterValue => exact .some (.inside (.object h _) outer)
          | start | afterComma => exact .none
        | key | value => exact .none
      | before | done => exact .none
    | colon =>
      cases h with
      | inside frame outer =>
        cases frame with
        | key h key => exact .some (.inside (.value h key) outer)
        | array | object | value => exact .none
      | before | done => exact .none

theorem Sketches.run (h : Sketches r r') {tokens tokens' : List Token}
    (htokens : List.Forall₂ Token.Sketches tokens tokens') :
    Option.Rel Sketches (r.run tokens) (r'.run tokens') := by
  induction htokens generalizing r r' with
  | nil => exact .some h
  | @cons token token' tokens tokens' htoken _ ih =>
    have hnext := h.step htoken
    rw [Reading.run, Reading.run]
    generalize r.step token = next at hnext
    generalize r'.step token' = next' at hnext
    cases hnext with
    | some hnext => exact ih hnext
    | none => exact .none

end Reading

/-- **Bytes that spell a document are read as its sketch**, with the same parts. -/
theorem Spells.exists_sketch {bytes : List UInt8} {document : Json} (h : Spells bytes document) :
    ∃ sketch, sketch? bytes = some sketch ∧ Sketches document sketch := by
  obtain ⟨s, rfl, hcut⟩ := h
  obtain ⟨tokens', htokens', hsketches⟩ := exists_sketches hcut.tokens?
  have hlength : s.length ≤ (encode s).length := by
    have hle := length_le_length_bytewise s
    rwa [bytewise, characters, List.length_map] at hle
  have hbytes : tokensWithin Token.sketch (encode s).length (characters (encode s)) =
      some tokens' := tokensWithin_mono htokens' hlength
  have hdocument := ofTokens?_tokens document
  have hrun := Reading.Sketches.before.run hsketches
  rw [ofTokens?] at hdocument
  rw [sketch?, hbytes, Option.bind_some, ofTokens?]
  generalize Reading.before.run document.tokens = r at hrun hdocument
  generalize Reading.before.run tokens' = r' at hrun
  cases hrun with
  | none => cases hdocument
  | some hread =>
    cases hread with
    | done hsketch =>
      cases hdocument
      exact ⟨_, rfl, hsketch⟩
    | before | inside => cases hdocument

end QueueDrain.Json
