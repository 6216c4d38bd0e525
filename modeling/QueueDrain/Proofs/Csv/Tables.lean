import QueueDrain.Csv.Detail
import QueueDrain.Csv.Summary
import QueueDrain.Proofs.Csv.Reader
import QueueDrain.Proofs.Text.Utf8

/-!
The two tables as bytes, and what a reader finds in them.

The detail table grows by a row for each result and is flushed after each, so there are as many
texts of it as there are results.  `tables_lossless` says that each of them is a beginning of the
next one, that a reader finds the header and the rows so far in it, cell by cell, and the same of
the summary table.

Design notes: nothing is assumed of the cells.  They may hold any characters, so what a report says
cannot split a row or merge two.
-/

namespace QueueDrain

open Text

/-- The records of a text that is given as bytes. -/
def Csv.readBytes? (bytes : List UInt8) : Option (List (List (List Char))) :=
  (Utf8.decode? bytes).bind Csv.read?

theorem Csv.readBytes?_encode {records : List (List String)}
    (h : ∀ record ∈ records, record ≠ []) :
    Csv.readBytes? (Utf8.encode (Csv.write records).toList) =
      some (records.map (·.map String.toList)) := by
  rw [Csv.readBytes?, Utf8.decode?_encode, Option.bind_some, Csv.read?_write h]

namespace Detail

variable (profile : Profile) (sampleHeap : Bool)

/-- The text of a table that is begun without results and gets a row for each result. -/
def written (results : List RunResult) : String :=
  results.foldl (fun text result => text ++ Csv.write [row profile sampleHeap result])
    (csv profile sampleHeap [])

/-- A table of one more result is the table with one more row. -/
theorem csv_concat (results : List RunResult) (result : RunResult) :
    csv profile sampleHeap (results ++ [result]) =
      csv profile sampleHeap results ++ Csv.write [row profile sampleHeap result] := by
  rw [csv, csv, ← Csv.write_append, table, table, List.map_append, List.cons_append,
    List.map_singleton]

theorem csv_append (results results' : List RunResult) :
    csv profile sampleHeap (results ++ results') =
      csv profile sampleHeap results ++ Csv.write (results'.map (row profile sampleHeap)) := by
  rw [csv, csv, ← Csv.write_append, table, table, List.map_append, List.cons_append]

/-- Row by row comes the same text as all at once. -/
theorem written_eq (results : List RunResult) :
    written profile sampleHeap results = csv profile sampleHeap results := by
  suffices h : ∀ before, results.foldl
      (fun text result => text ++ Csv.write [row profile sampleHeap result])
      (csv profile sampleHeap before) = csv profile sampleHeap (before ++ results) from h []
  induction results with
  | nil => simp
  | cons result results ih =>
    intro before
    rw [List.foldl_cons, ← csv_concat, ih, List.append_assoc, List.singleton_append]

theorem length_of_mem_table {results : List RunResult} {record : List String}
    (h : record ∈ table profile sampleHeap results) :
    record.length = (header profile sampleHeap).length := by
  rcases List.mem_cons.mp h with rfl | h
  · rfl
  · obtain ⟨result, -, rfl⟩ := List.mem_map.mp h
    rw [row, header, List.length_map, List.length_map]

/-- Every table begins with three columns at least, so no row is empty. -/
theorem header_ne_nil : header profile sampleHeap ≠ [] := by
  simp [header, columns, leadingColumns]

theorem ne_nil_of_mem_table {results : List RunResult} {record : List String}
    (h : record ∈ table profile sampleHeap results) : record ≠ [] := by
  have hlength := length_of_mem_table profile sampleHeap h
  have hheader := List.length_pos_iff.mpr (header_ne_nil profile sampleHeap)
  exact List.ne_nil_of_length_pos (by omega)

/-- The bytes of a table are a beginning of the bytes of a table with more results. -/
theorem encode_written_prefix {results results' : List RunResult} (h : results <+: results') :
    Utf8.encode (written profile sampleHeap results).toList <+:
      Utf8.encode (written profile sampleHeap results').toList := by
  obtain ⟨more, rfl⟩ := h
  rw [written_eq, written_eq, csv_append, String.toList_append, Utf8.encode_append]
  exact List.prefix_append _ _

end Detail

namespace SummaryRow

theorem length_of_mem_table {rows : List SummaryRow} {record : List String}
    (h : record ∈ header :: rows.map cells) : record.length = 8 := by
  rcases List.mem_cons.mp h with rfl | h
  · rfl
  · obtain ⟨row, -, rfl⟩ := List.mem_map.mp h
    rfl

end SummaryRow

/-- **The tables lose nothing and only grow.**  What is flushed of a detail table after some results
is a beginning of what is flushed after one more, and holds the header and one row for each of these
results in order, all with the same number of cells.  The summary table holds its header and its
rows in order, with eight cells each. -/
theorem tables_lossless :
    (∀ (profile : Profile) (sampleHeap : Bool) (results : List RunResult) (k : Nat),
      Utf8.encode (Detail.written profile sampleHeap (results.take k)).toList <+:
          Utf8.encode (Detail.written profile sampleHeap (results.take (k + 1))).toList ∧
        ∃ records,
          Csv.readBytes?
              (Utf8.encode (Detail.written profile sampleHeap (results.take k)).toList) =
            some (records.map (·.map String.toList)) ∧
          records = Detail.header profile sampleHeap ::
            (results.take k).map (Detail.row profile sampleHeap) ∧
          records.length = min k results.length + 1 ∧
          ∀ record ∈ records, record.length = (Detail.header profile sampleHeap).length) ∧
      ∀ rows : List SummaryRow, ∃ records,
        Csv.readBytes? (Utf8.encode (SummaryRow.csv rows).toList) =
          some (records.map (·.map String.toList)) ∧
        records = SummaryRow.header :: rows.map SummaryRow.cells ∧
        ∀ record ∈ records, record.length = 8 := by
  constructor
  · intro profile sampleHeap results k
    refine ⟨Detail.encode_written_prefix profile sampleHeap ?_,
      Detail.table profile sampleHeap (results.take k), ?_, rfl, ?_,
      fun record => Detail.length_of_mem_table profile sampleHeap⟩
    · exact List.take_prefix_take_left (Nat.le_succ k)
    · rw [Detail.written_eq, Detail.csv]
      exact Csv.readBytes?_encode fun record => Detail.ne_nil_of_mem_table profile sampleHeap
    · rw [Detail.table, List.length_cons, List.length_map, List.length_take]
  · intro rows
    refine ⟨SummaryRow.header :: rows.map SummaryRow.cells, ?_, rfl,
      fun record => SummaryRow.length_of_mem_table⟩
    refine Csv.readBytes?_encode fun record hrecord => ?_
    exact List.ne_nil_of_length_pos (by rw [SummaryRow.length_of_mem_table hrecord]; decide)

end QueueDrain
