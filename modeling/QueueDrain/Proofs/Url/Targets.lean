import Mathlib.Data.List.Basic
import QueueDrain.Url.Readers
import QueueDrain.Url.Request

/-!
The rules of addresses, and which addresses can go on with the path of an endpoint.

The lenient reader of addresses keeps to the rules of absolute addresses (`ReadsAbsolute`), and the
strict one to those of request targets (`ReadsTargets`).  A target is a path, or a host, or it has
its scheme spelled out, and only in the last form can it be made longer by a path.  So a base
address to which a path has been added is a target exactly if the base address is one, spells out
its scheme, and leaves room for the path (`ReadsTargets.append_iff`).

Design notes: the rules say which form a text has by its characters alone.  What the readers make of
a text beyond these forms is up to them.
-/

namespace QueueDrain.Url

/-! ### Forms of addresses -/

/-- An address that spells out its scheme, with a colon and two slashes after it. -/
def SpellsScheme (s : List Char) : Prop :=
  ∃ name rest, s = name ++ [':', '/', '/'] ++ rest ∧ ∀ c ∈ name, isSchemeChar c

/-- Whether a character may stand in any path and in any query. -/
def isPlainChar (c : Char) : Bool :=
  isLetter c || c.isDigit || "-._~!$&'()*+,;=:@/?".toList.contains c

/-- A path, perhaps with a query, that can follow any address: its second character is no slash. -/
structure IsEndpoint (path : List Char) : Prop where
  start : ∃ c rest, path = '/' :: c :: rest ∧ c ≠ '/'
  plain : ∀ c ∈ path, isPlainChar c

/-! ### Rules -/

/-- The rules of absolute addresses: the empty text is none, nor is a text that begins with a slash.
-/
structure Readers.ReadsAbsolute (urls : Readers) : Prop where
  empty : urls.scheme? "" = none
  relative : ∀ s : String, s.toList.head? = some '/' → urls.scheme? s = none

/-- The rules of request targets. -/
structure Readers.ReadsTargets (urls : Readers) : Prop where
  length_le : ∀ s, urls.isTarget s → s.utf8ByteSize ≤ requestLimit
  /-- What is no path and spells out no scheme is a host, in which there is no slash. -/
  host : ∀ s, urls.isTarget s → s.toList.head? ≠ some '/' → ¬ SpellsScheme s.toList →
    '/' ∉ s.toList
  /-- The path of a target with a scheme can go on as long as there is room. -/
  extend : ∀ s path, urls.isTarget s → SpellsScheme s.toList → IsEndpoint path.toList →
    (s ++ path).utf8ByteSize ≤ requestLimit → urls.isTarget (s ++ path)
  /-- What the path of a target with a scheme goes on with can be left out. -/
  restrict : ∀ s path, urls.isTarget (s ++ path) → SpellsScheme s.toList →
    IsEndpoint path.toList → urls.isTarget s

/-! ### Schemes -/

theorem SpellsScheme.append {s : List Char} (h : SpellsScheme s) (path : List Char) :
    SpellsScheme (s ++ path) := by
  obtain ⟨name, rest, rfl, hname⟩ := h
  exact ⟨name, rest ++ path, List.append_assoc _ _ _, hname⟩

/-- A path brings no slash that the scheme before it is missing. -/
theorem SpellsScheme.of_append {base path : List Char} (h : SpellsScheme (base ++ path))
    (hpath : IsEndpoint path) (hlast : base.getLast? ≠ some '/') : SpellsScheme base := by
  obtain ⟨name, rest, heq, hname⟩ := h
  obtain ⟨c, tail, rfl, hc⟩ := hpath.start
  rcases List.append_eq_append_iff.mp heq with ⟨cut, hmark, htail⟩ | ⟨cut, rfl, -⟩
  · -- the path begins within the name, or within the colon and the slashes
    rcases List.append_eq_append_iff.mp hmark with ⟨front, rfl, hcut⟩ | ⟨back, rfl, rfl⟩
    · match front, hcut with
      | [], hcut =>
        rw [← hcut.trans (List.nil_append cut)] at htail
        cases htail
      | [a], hcut =>
        obtain ⟨-, rfl⟩ := List.cons_eq_cons.mp hcut
        obtain ⟨rfl, -⟩ := List.cons_eq_cons.mp (List.cons_eq_cons.mp htail).2
        exact absurd rfl hc
      | a :: b :: front, hcut =>
        -- then the address before the path ends with a slash
        have hslashes : ∀ d ∈ b :: front, d = '/' := by
          intro d hd
          have hmem : d ∈ ['/', '/'] := by
            rw [(List.cons_eq_cons.mp hcut).2]
            exact List.mem_append_left _ hd
          simpa using hmem
        have hend := List.getLast?_eq_some_getLast (List.cons_ne_nil b front)
        rw [hslashes _ (List.getLast_mem _)] at hend
        refine absurd ?_ hlast
        rw [List.getLast?_append_of_ne_nil _ (List.cons_ne_nil _ _), List.getLast?_cons_cons, hend]
    · match back with
      | [] => cases htail
      | d :: back =>
        obtain ⟨rfl, -⟩ := List.cons_eq_cons.mp htail
        have hslash := hname '/' (List.mem_append_right _ List.mem_cons_self)
        exact absurd hslash (by decide)
  · exact ⟨name, cut, rfl, hname⟩

/-- **A base address with the path of an endpoint after it** is a target exactly if the base address
is one that spells out its scheme, and there is room for the path. -/
theorem Readers.ReadsTargets.append_iff {urls : Readers} (h : urls.ReadsTargets)
    {base path : String} (hpath : IsEndpoint path.toList) (hne : base ≠ "")
    (hhead : base.toList.head? ≠ some '/') (hlast : base.toList.getLast? ≠ some '/') :
    urls.isTarget (base ++ path) ↔ SpellsScheme base.toList ∧ urls.isTarget base ∧
      (base ++ path).utf8ByteSize ≤ requestLimit := by
  constructor
  · intro htarget
    by_cases hspells : SpellsScheme base.toList
    · exact ⟨hspells, h.restrict base path htarget hspells hpath, h.length_le _ htarget⟩
    · -- without a scheme the slash of the path is one too many
      refine absurd ?_ (h.host _ htarget ?_ ?_)
      · obtain ⟨c, rest, heq, -⟩ := hpath.start
        rw [String.toList_append, heq]
        exact List.mem_append_right _ List.mem_cons_self
      · have hsome : base.toList ≠ [] := fun hnil => hne (String.toList_inj.mp hnil)
        rwa [String.toList_append, List.head?_append_of_ne_nil _ hsome]
      · rw [String.toList_append]
        exact fun hboth => hspells (hboth.of_append hpath hlast)
  · rintro ⟨hspells, htarget, hroom⟩
    exact h.extend base path htarget hspells hpath hroom

end QueueDrain.Url
