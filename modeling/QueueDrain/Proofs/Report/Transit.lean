import QueueDrain.Client
import QueueDrain.Proofs.Json.Settled
import QueueDrain.Report

/-!
Reports as bodies of responses.

A report without doubles whose text is the body of a response is read from it as it was
(`outcome_body`), and what is read from any body is such a report if it has no doubles
(`outcome_settled`).  So what is written down of a report can be read and written again without any
change.

* `Transit`: what becomes of reports that are read and written;
* `transit`: this holds for the responses to all requests.
-/

namespace QueueDrain.Report

open Client

/-- The report as a document. -/
def document (report : Report) : Json := .object report.fields

/-- The report as the body of a response, in compact text. -/
def body (report : Report) : List UInt8 := Text.Utf8.encode report.fields.text.toList

theorem body_eq (report : Report) :
    report.body = Text.Utf8.encode (Json.write report.document) := by
  rw [body, Json.Fields.text, Json.text, String.toList_ofList]
  rfl

variable {request : Http.Request} {report : Report} {bytes : List UInt8}

theorem outcome_eq_ok_iff :
    reportOutcome request ⟨200, bytes⟩ = .ok report ↔ Json.SpellsObject bytes report.fields := by
  rw [← Json.object?_parseBytes?_eq_some_iff, reportOutcome, if_pos rfl]
  cases (Json.parseBytes? bytes).bind Json.object? with
  | none => exact iff_of_false nofun nofun
  | some fields =>
    rw [Except.ok.injEq, Option.some.injEq]
    exact ⟨fun h => congrArg Report.fields h, fun h => congrArg Report.mk h⟩

/-- **The text of an admissible report without doubles is read as that report.** -/
theorem outcome_body (hwhole : report.document.Whole)
    (h : Json.Admissible Json.nestingLimit report.document) :
    reportOutcome request ⟨200, report.body⟩ = .ok report := by
  have hparse := Json.parseBytes?_text (hwhole.readable h)
  rw [← Json.rereadFields_eq] at hparse
  have hreread := hwhole.reread_eq
  rw [document, Json.reread, Json.object.injEq] at hreread
  rw [hreread, Json.object?_parseBytes?_eq_some_iff] at hparse
  exact outcome_eq_ok_iff.mpr hparse

/-- A report that is read is admissible, and the body spells a document that is settled to it. -/
theorem outcome_settled (h : reportOutcome request ⟨200, bytes⟩ = .ok report) :
    Json.Admissible Json.nestingLimit report.document ∧
      ∃ document, Json.Spells bytes document ∧ Json.Settles document report.document := by
  obtain ⟨bindings, hspells, hbounded, hfields⟩ := outcome_eq_ok_iff.mp h
  have hordered : (Json.object bindings).ordered = report.document := by
    rw [Json.ordered, document, hfields]
    rfl
  refine ⟨?_, _, hspells, Json.settles_iff.mpr hordered.symm⟩
  rw [← hordered]
  exact hbounded.admissible_ordered

/-- What becomes of reports without doubles that are read from responses and written again. -/
structure Transit (request : Http.Request) : Prop where
  /-- A report is read from its own text as it was. -/
  written : ∀ report : Report, report.document.InOrder → report.document.Whole →
    report.document.depth ≤ 127 → reportOutcome request ⟨200, report.body⟩ = .ok report
  /-- So is a report that was read from any other text. -/
  rewritten : ∀ bytes report, reportOutcome request ⟨200, bytes⟩ = .ok report →
    report.document.Whole → reportOutcome request ⟨200, report.body⟩ = .ok report
  /-- Its own text is what it is written as from then on. -/
  stable : ∀ bytes report, reportOutcome request ⟨200, bytes⟩ = .ok report →
    report.document.Whole →
      (reportOutcome request ⟨200, report.body⟩).map body = .ok report.body
  /-- This text spells the document of the first one with its objects in order and every key once,
  bound to the last of its values. -/
  settled : ∀ bytes report, reportOutcome request ⟨200, bytes⟩ = .ok report →
    report.document.Whole → Json.Spells report.body report.document ∧
      ∃ document, Json.Spells bytes document ∧ Json.Settles document report.document

/-- **Reports are carried along untouched**: reading undoes writing, and writing what was read
changes no more than the order of keys and the duplicates among them. -/
theorem transit (request : Http.Request) : Transit request where
  written report horder hwhole hdepth :=
    outcome_body hwhole ((hwhole.bounded hdepth).admissible horder)
  rewritten bytes report h hwhole := outcome_body hwhole (outcome_settled h).1
  stable bytes report h hwhole := by
    rw [outcome_body hwhole (outcome_settled h).1]
    rfl
  settled bytes report h hwhole := by
    rw [body_eq]
    exact ⟨hwhole.spells_write, (outcome_settled h).2⟩

/-- A report with the largest and the smallest integer, and with a text that has to be escaped. -/
def extreme : Report :=
  ⟨[("a", .ofNat 18446744073709551615),
    ("b", .array [.ofInt (-9223372036854775808), .string "\x01\"é"])]⟩

theorem whole_extreme : ∀ field ∈ extreme.fields, field.2.Whole := by
  refine List.forall_mem_cons.mpr ⟨.int (by decide) (by decide), List.forall_mem_singleton.mpr ?_⟩
  refine .array (List.forall_mem_cons.mpr ⟨.int (by decide) (by decide), ?_⟩)
  exact List.forall_mem_singleton.mpr (.string _)

/-- The same fields in a text that has them the other way round, and one of them twice. -/
def shuffled : Json := .object (("b", .null) :: extreme.fields.reverse)

theorem transit_shuffled :
    reportOutcome ⟨.get, "http://lab/report"⟩ ⟨200, Text.Utf8.encode shuffled.write⟩ =
        .ok extreme ∧
      extreme.document.Whole ∧ extreme.document.depth = 2 ∧
      reportOutcome ⟨.get, "http://lab/report"⟩ ⟨200, extreme.body⟩ = .ok extreme := by
  have hwhole : shuffled.Whole := .object (List.forall_mem_cons.mpr
    ⟨.null, fun field hfield => whole_extreme field (List.mem_reverse.mp hfield)⟩)
  have hread : reportOutcome ⟨.get, "http://lab/report"⟩ ⟨200, Text.Utf8.encode shuffled.write⟩ =
      .ok extreme :=
    outcome_eq_ok_iff.mpr ⟨_, hwhole.spells_write, hwhole.bounded (by decide), rfl⟩
  exact ⟨hread, .object whole_extreme, by decide,
    (transit _).rewritten _ _ hread (.object whole_extreme)⟩

end QueueDrain.Report
