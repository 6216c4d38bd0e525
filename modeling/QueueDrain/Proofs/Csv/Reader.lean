import QueueDrain.Csv.Basic

/-!
A reader of comma-separated values, and that it undoes the writer.

`read?` follows the grammar of RFC 4180, with a line feed at the end of each record: commas between
fields, quotes around a field with special characters in it, and two quotes for one inside of them.
It is strict: a quote in the middle of a field, a text behind a closing quote, a bare carriage
return or a quote that nothing closes make the whole text unreadable.

Design notes: the reader knows nothing of the writer.  It goes through the text character by
character, and what it has read of the current field and record is carried along, so a lemma about
the text of a field holds in the middle of any record and in front of any rest.
-/

namespace QueueDrain.Csv

/-! ### The reader -/

/-- Where a reader stands in a field. -/
inductive Phase where
  /-- At its beginning. -/
  | fresh
  /-- In a field without quotes. -/
  | bare
  /-- Between the quotes of a field. -/
  | quoted
  /-- Behind a quote that closes a field or is the first of two. -/
  | closing

/-- What a character does to a reader. -/
inductive Action where
  /-- It only changes the phase. -/
  | pass (phase : Phase)
  /-- It belongs to the field. -/
  | add (phase : Phase)
  | endField
  | endRecord
  /-- It may not stand here. -/
  | refuse

def Phase.act (phase : Phase) (c : Char) : Action :=
  match phase with
  | .quoted => if c = '"' then .pass .closing else .add .quoted
  | .closing =>
    if c = ',' then .endField
    else if c = '\n' then .endRecord
    else if c = '"' then .add .quoted
    else .refuse
  | .fresh =>
    if c = ',' then .endField
    else if c = '\n' then .endRecord
    else if c = '"' then .pass .quoted
    else if c = '\r' then .refuse
    else .add .bare
  | .bare =>
    if c = ',' then .endField
    else if c = '\n' then .endRecord
    else if c = '"' ∨ c = '\r' then .refuse
    else .add .bare

/--
Reads a text from some phase on, with what there is so far of the current field and the fields
before it.
-/
def readFrom (phase : Phase) (field : List Char) (fields : List (List Char)) :
    List Char → Option (List (List (List Char)))
  | [] =>
    match phase, fields with
    | .quoted, _ => none
    | .fresh, [] => some []
    | _, _ => some [fields ++ [field]]
  | c :: rest =>
    match phase.act c with
    | .pass phase => readFrom phase field fields rest
    | .add phase => readFrom phase (field ++ [c]) fields rest
    | .endField => readFrom .fresh [] (fields ++ [field]) rest
    | .endRecord => (readFrom .fresh [] [] rest).map ((fields ++ [field]) :: ·)
    | .refuse => none

/-- The records of a text. -/
def read? (text : List Char) : Option (List (List (List Char))) := readFrom .fresh [] [] text

/-! ### Fields -/

variable (field : List Char) (fields : List (List Char)) (rest : List Char)

/-- A comma ends a field, quoted or not. -/
theorem readFrom_comma {phase : Phase} (hphase : phase ≠ .quoted) :
    readFrom phase field fields (',' :: rest) = readFrom .fresh [] (fields ++ [field]) rest := by
  cases phase with
  | quoted => exact absurd rfl hphase
  | fresh | bare | closing => rfl

/-- A line end ends a record. -/
theorem readFrom_newline {phase : Phase} (hphase : phase ≠ .quoted) :
    readFrom phase field fields ('\n' :: rest) =
      (read? rest).map ((fields ++ [field]) :: ·) := by
  cases phase with
  | quoted => exact absurd rfl hphase
  | fresh | bare | closing => rfl

/-- What is between the quotes is read with each pair of quotes as one. -/
theorem readFrom_double (s : List Char) :
    readFrom .quoted field fields (double s ++ '"' :: rest) =
      readFrom .closing (field ++ s) fields rest := by
  induction s generalizing field with
  | nil =>
    rw [List.append_nil]
    rfl
  | cons c s ih =>
    rw [double, List.flatMap_cons, ← double, List.append_assoc]
    by_cases hc : c = '"'
    · subst hc
      show readFrom .quoted (field ++ ['"']) fields (double s ++ '"' :: rest) = _
      rw [ih, List.append_assoc, List.singleton_append]
    · have hact : Phase.quoted.act c = .add .quoted := if_neg hc
      simp only [if_neg hc, List.singleton_append, readFrom, hact]
      rw [ih, List.append_assoc, List.singleton_append]

/-- A character that forces no quotes goes on a field without quotes. -/
theorem readFrom_plain {phase : Phase} (hphase : phase = .fresh ∨ phase = .bare) {c : Char}
    (hc : ¬ needsQuotes c) :
    readFrom phase field fields (c :: rest) = readFrom .bare (field ++ [c]) fields rest := by
  have hplain : c ≠ ',' ∧ c ≠ '"' ∧ c ≠ '\n' ∧ c ≠ '\r' := by
    simpa [needsQuotes, not_or, and_assoc] using hc
  obtain ⟨hcomma, hquote, hnewline, hreturn⟩ := hplain
  have hact : phase.act c = .add .bare := by
    rcases hphase with rfl | rfl <;> simp [Phase.act, hcomma, hquote, hnewline, hreturn]
  rw [readFrom, hact]

theorem readFrom_bare {s : List Char} (hs : ∀ c ∈ s, ¬ needsQuotes c) :
    readFrom .bare field fields (s ++ rest) = readFrom .bare (field ++ s) fields rest := by
  induction s generalizing field with
  | nil => rw [List.nil_append, List.append_nil]
  | cons c s ih =>
    rw [List.forall_mem_cons] at hs
    rw [List.cons_append, readFrom_plain _ _ _ (.inr rfl) hs.1, ih _ hs.2, List.append_assoc,
      List.singleton_append]

/-- Behind the text of a field stands the field, in a phase in which it may end. -/
theorem readFrom_writeField (s : List Char) :
    ∃ phase, phase ≠ .quoted ∧
      readFrom .fresh [] fields (writeField s ++ rest) = readFrom phase s fields rest := by
  rw [writeField]
  by_cases hs : s.any needsQuotes
  · rw [if_pos hs, List.cons_append, List.append_assoc, List.singleton_append]
    refine ⟨.closing, by simp, ?_⟩
    show readFrom .quoted [] fields (double s ++ '"' :: rest) = _
    rw [readFrom_double, List.nil_append]
  · rw [if_neg hs]
    rcases s with _ | ⟨c, s⟩
    · exact ⟨.fresh, by simp, rfl⟩
    · have hplain : ∀ d ∈ c :: s, ¬ needsQuotes d := by simpa using hs
      rw [List.forall_mem_cons] at hplain
      refine ⟨.bare, by simp, ?_⟩
      rw [List.cons_append, readFrom_plain _ _ _ (.inl rfl) hplain.1, List.nil_append,
        readFrom_bare _ _ _ hplain.2, List.singleton_append]

/-! ### Records -/

theorem readFrom_writeRecord {record : List (List Char)} (hrecord : record ≠ []) :
    readFrom .fresh [] fields (writeRecord record ++ rest) =
      (read? rest).map ((fields ++ record) :: ·) := by
  induction record generalizing fields with
  | nil => exact absurd rfl hrecord
  | cons s record ih =>
    rcases record with _ | ⟨t, record⟩
    · obtain ⟨phase, hphase, hread⟩ := readFrom_writeField fields ('\n' :: rest) s
      rw [writeRecord, List.append_assoc, List.singleton_append, hread,
        readFrom_newline _ _ _ hphase]
    · obtain ⟨phase, hphase, hread⟩ :=
        readFrom_writeField fields (',' :: (writeRecord (t :: record) ++ rest)) s
      rw [writeRecord, List.append_assoc, List.cons_append, hread, readFrom_comma _ _ _ hphase,
        ih _ (by simp), List.append_assoc, List.singleton_append]

/-- **Reading undoes writing**: the text of records is read as those records. -/
theorem read?_write {records : List (List String)} (h : ∀ record ∈ records, record ≠ []) :
    read? (write records).toList = some (records.map (·.map String.toList)) := by
  rw [write, String.toList_ofList]
  induction records with
  | nil => rfl
  | cons record records ih =>
    rw [List.forall_mem_cons] at h
    rw [List.flatMap_cons, read?, readFrom_writeRecord _ _ (by simpa using h.1), ih h.2]
    rfl

/-- The text of records goes on with the text of more records. -/
theorem write_append (records records' : List (List String)) :
    write (records ++ records') = write records ++ write records' := by
  rw [write, List.flatMap_append, String.ofList_append]
  rfl

example : read? "a,\"b\"\"c\n\",\n".toList = some [["a".toList, "b\"c\n".toList, []]] := by decide

end QueueDrain.Csv
