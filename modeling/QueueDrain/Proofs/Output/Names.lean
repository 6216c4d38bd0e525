import QueueDrain.Proofs.Output.Volume
import QueueDrain.Proofs.Text.Integer

/-!
The names of the tables that runs write, and that no two tables share a path.

A name tells its table (`Table.name_inj`): the profile by its first letter, the kind of table by the
letter or digit two places behind the stem, and the time stamp by its digits.  The name is the last
one of the path, so different tables in a directory have different paths and places, and a detail
table and a summary table have them even in different directories (`Table.paths_apart`).

Design notes: time stamps are numbers of any size.  Paths are compared as texts, by the names in
them (without regard to slashes and single dots), and by the places that they lead to; so nothing
rests on when two spellings count as one path.
-/

namespace QueueDrain.Output

/-- The kinds of tables of a run. -/
inductive Kind where
  /-- A row for each iteration. -/
  | detail
  /-- A row for each size and mode. -/
  | summary
deriving DecidableEq

/-- What stands in a name between the stem and the time stamp. -/
def Kind.mark : Kind → String
  | .detail => "-"
  | .summary => "-summary-"

/-- The path of the table of a kind. -/
def Paths.ofKind (paths : Paths) : Kind → String
  | .detail => paths.detail
  | .summary => paths.summary

/-- A table of a run: the profile and the time stamp of the run, and which of its tables it is. -/
structure Table where
  profile : Profile
  stamp : Nat
  kind : Kind
deriving DecidableEq

/-! ### The parts of a name -/

/-- The stems differ in their first letters. -/
theorem stem_append_inj {profile profile' : Profile} {s s' : List Char}
    (h : (stem profile).toList ++ s = (stem profile').toList ++ s') :
    profile = profile' ∧ s = s' := by
  have hhead := congrArg List.head? h
  cases profile with
  | flow =>
    cases profile' with
    | flow => exact ⟨rfl, List.append_cancel_left h⟩
    | memory => exact absurd (Option.some.inj hhead) (by decide)
  | memory =>
    cases profile' with
    | flow => exact absurd (Option.some.inj hhead) (by decide)
    | memory => exact ⟨rfl, List.append_cancel_left h⟩

/-- No time stamp reads like the rest of the mark of a summary table. -/
theorem Kind.mark_append_digits_ne (stamp : Nat) (s s' : List Char) :
    detail.mark.toList ++ (Nat.toDigits 10 stamp ++ s) ≠ summary.mark.toList ++ s' := by
  obtain ⟨c, digits, hdigits, hc⟩ := Text.toDigits_eq_cons stamp
  intro h
  rw [hdigits] at h
  obtain rfl : c = 's' := (List.cons.inj (List.cons.inj h).2).1
  exact absurd hc (by decide)

theorem Kind.mark_append_inj {kind kind' : Kind} {stamp stamp' : Nat} {s : List Char}
    (h : kind.mark.toList ++ (Nat.toDigits 10 stamp ++ s) =
      kind'.mark.toList ++ (Nat.toDigits 10 stamp' ++ s)) :
    kind = kind' ∧ stamp = stamp' := by
  cases kind with
  | detail =>
    cases kind' with
    | detail =>
      exact ⟨rfl, Text.toDigits_inj (List.append_cancel_right (List.append_cancel_left h))⟩
    | summary => exact absurd h (mark_append_digits_ne stamp s _)
  | summary =>
    cases kind' with
    | detail => exact absurd h.symm (mark_append_digits_ne stamp' s _)
    | summary =>
      exact ⟨rfl, Text.toDigits_inj (List.append_cancel_right (List.append_cancel_left h))⟩

/-! ### Names -/

namespace Table

def name : Table → String
  | ⟨profile, stamp, .detail⟩ => detailName profile stamp
  | ⟨profile, stamp, .summary⟩ => summaryName profile stamp

theorem name_eq (table : Table) :
    table.name = stem table.profile ++ table.kind.mark ++ toString table.stamp ++ ".csv" := by
  obtain ⟨profile, stamp, kind⟩ := table
  cases kind <;> rfl

theorem toList_name (table : Table) :
    table.name.toList = (stem table.profile).toList ++
      (table.kind.mark.toList ++ (Nat.toDigits 10 table.stamp ++ ".csv".toList)) := by
  simp only [name_eq, String.toList_append, Text.toList_toString, List.append_assoc]

/-- A name of a table is a file name. -/
theorem fileName_name (table : Table) : FileName table.name := by
  have hdigits : '/' ∉ Nat.toDigits 10 table.stamp := Text.not_mem_digits (by decide) table.stamp
  have hmark : '/' ∉ table.kind.mark.toList := by
    cases table.kind <;> decide
  constructor
  · rw [toList_name]
    cases table.profile <;> simp [stem, hdigits, hmark]
  · rw [toList_name]
    cases table.profile
    · exact ⟨'f', rfl, by decide⟩
    · exact ⟨'m', rfl, by decide⟩

/-- **A name tells its table.** -/
theorem name_inj {table table' : Table} : table.name = table'.name ↔ table = table' := by
  constructor
  · intro h
    rw [← String.toList_inj, toList_name, toList_name] at h
    obtain ⟨hprofile, hrest⟩ := stem_append_inj h
    obtain ⟨hkind, hstamp⟩ := Kind.mark_append_inj hrest
    obtain ⟨profile, stamp, kind⟩ := table
    exact (mk.injEq ..).mpr ⟨hprofile, hstamp, hkind⟩
  · rintro rfl
    rfl

end Table

namespace Table

/-- Where a run into a directory writes the table. -/
def path (dir : String) (table : Table) : String :=
  (Paths.at dir table.profile table.stamp).ofKind table.kind

theorem path_eq_join (dir : String) (table : Table) : table.path dir = join dir table.name := by
  obtain ⟨profile, stamp, kind⟩ := table
  cases kind <;> rfl

variable {dir dir' : String} {table table' : Table}

theorem names_path_eq_iff :
    Volume.names (table.path dir) = Volume.names (table'.path dir') ↔
      Volume.names dir = Volume.names dir' ∧ table = table' := by
  rw [path_eq_join, path_eq_join, Volume.names_join table.fileName_name,
    Volume.names_join table'.fileName_name, List.append_singleton_inj, name_inj]

theorem locate_path_eq_iff {volume : Volume} :
    volume.locate (table.path dir) = volume.locate (table'.path dir') ↔
      volume.locate dir = volume.locate dir' ∧ table = table' := by
  rw [path_eq_join, path_eq_join, Volume.locate_join table.fileName_name,
    Volume.locate_join table'.fileName_name, List.append_singleton_inj, name_inj]

/-- **No two tables share a path**, however paths are compared. -/
theorem paths_apart (volume : Volume) (dir dir' : String) (table table' : Table) :
    (table.path dir = table'.path dir ↔ table = table') ∧
      (Volume.names (table.path dir) = Volume.names (table'.path dir') ↔
        Volume.names dir = Volume.names dir' ∧ table = table') ∧
      (volume.locate (table.path dir) = volume.locate (table'.path dir') ↔
        volume.locate dir = volume.locate dir' ∧ table = table') ∧
      ∀ profile profile' stamp stamp',
        (Paths.at dir profile stamp).detail ≠ (Paths.at dir' profile' stamp').summary := by
  refine ⟨⟨?_, ?_⟩, names_path_eq_iff, locate_path_eq_iff, ?_⟩
  · intro h
    exact (names_path_eq_iff.mp (congrArg Volume.names h)).2
  · rintro rfl
    rfl
  · intro profile profile' stamp stamp' h
    have hpath : path dir ⟨profile, stamp, .detail⟩ = path dir' ⟨profile', stamp', .summary⟩ := h
    cases (names_path_eq_iff.mp (congrArg Volume.names hpath)).2

end Table

end QueueDrain.Output
