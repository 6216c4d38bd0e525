import QueueDrain.Proofs.Text.Blank
import QueueDrain.Proofs.Text.Utf8
import QueueDrain.Url.Percent

/-!
Queries that need no percent signs.

What has no percent signs and plus signs in it stands for itself (`decodeComponent_of_plain`), and a
query with one name shows the value of that name (`queryValue?_single`).
-/

namespace QueueDrain.Url

/-- Text without percent signs and plus signs stands for itself. -/
theorem percentDecode_of_plain {s : List Char} (h : ∀ c ∈ s, c ≠ '%') :
    percentDecode s = Text.Utf8.encode s := by
  induction s with
  | nil => rw [percentDecode, Text.Utf8.encode_nil]
  | cons c s ih =>
    obtain ⟨hc, hs⟩ := List.forall_mem_cons.mp h
    rw [percentDecode, ih hs, ← Text.Utf8.encode_append]
    · rfl
    · rintro a b s' rfl
      exact absurd rfl hc

theorem decodeComponent_of_plain {s : List Char} (h : ∀ c ∈ s, c ≠ '%' ∧ c ≠ '+') :
    decodeComponent s = s := by
  have hmap : (s.map fun c => if c = '+' then ' ' else c) = s := by
    refine (List.map_congr_left fun c hc => ?_).trans (List.map_id s)
    exact if_neg (h c hc).2
  rw [decodeComponent, hmap, percentDecode_of_plain fun c hc => (h c hc).1,
    Text.Utf8.decodeLossy_encode]

/-- The characters that stand for themselves in the names and values of a query. -/
def IsPlain (c : Char) : Prop := c ≠ '%' ∧ c ≠ '+' ∧ c ≠ '&' ∧ c ≠ '=' ∧ c ≠ '#' ∧ c ≠ '?'

instance (c : Char) : Decidable (IsPlain c) := inferInstanceAs (Decidable (_ ∧ _))

/-- A query with one name and its value. -/
theorem queryValue?_single {name value : List Char} (hname : ∀ c ∈ name, IsPlain c)
    (hvalue : ∀ c ∈ value, IsPlain c) : queryValue? (name ++ '=' :: value) name = some value := by
  -- no ampersand ends the only pair
  have hsplit : Text.split '&' (name ++ '=' :: value) = [name ++ '=' :: value] := by
    refine Text.split_of_not_mem fun hmem => ?_
    rcases List.mem_append.mp hmem with hmem | hmem
    · exact (hname _ hmem).2.2.1 rfl
    · rcases List.mem_cons.mp hmem with heq | hmem
      · cases heq
      · exact (hvalue _ hmem).2.2.1 rfl
  -- the first equals sign is the one after the name
  have hequals : splitAtEquals (name ++ '=' :: value) = (name, value) := by
    rw [splitAtEquals, Text.span_append_cons (fun c hc => by simp [(hname c hc).2.2.2.1]) (by simp)]
  have hne : name ++ '=' :: value ≠ [] := by simp
  rw [queryValue?, queryPairs, hsplit, List.filter_cons_of_pos (by simp [hne]), List.filter_nil,
    List.map_singleton, hequals]
  dsimp only
  rw [decodeComponent_of_plain fun c hc => ⟨(hname c hc).1, (hname c hc).2.1⟩,
    decodeComponent_of_plain fun c hc => ⟨(hvalue c hc).1, (hvalue c hc).2.1⟩]
  simp

end QueueDrain.Url
