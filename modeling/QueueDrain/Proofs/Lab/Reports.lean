import QueueDrain.Lab.Basic
import QueueDrain.Proofs.Json.Doubles
import QueueDrain.Proofs.Lab.Drain
import QueueDrain.Proofs.Report.Counts

/-!
Reports of a lab, as a client reads them.

A report is a document of whole numbers, texts and one double.  As long as the numbers have 64 bits
(`Run.Fits`), such a document can be read back (`Run.readable_report`), and what is read shows the
state of the run (`Run.Shows`): all that it says apart from the double is as it was written.
-/

namespace QueueDrain.Lab

/-- The numbers of the options have 64 bits. -/
structure Options.Fits (options : Options) : Prop where
  errors : options.errorsPerRun < UInt64.size
  retries : options.retriesPerRun < UInt64.size

namespace Run

/-- The numbers of a run have 64 bits, and there are so many jobs at most. -/
structure Fits (run : Run) : Prop where
  jobs : run.pending + run.processing + run.done < UInt64.size
  items : run.items < UInt64.size
  startedAtMs : ∀ time ∈ run.startedAtMs, time < UInt64.size
  finishedAtMs : ∀ time ∈ run.finishedAtMs, time < UInt64.size
  drainTimeMs : ∀ ms ∈ run.drainTimeMs, ms < UInt64.size

variable {options : Options} {run : Run}

/-! ### Numbers of 64 bits -/

theorem Fits.reset (h : run.pending < UInt64.size) : run.reset.Fits :=
  ⟨h, (by decide : 0 < UInt64.size), nofun, nofun, nofun⟩

theorem Fits.seed {items : Nat} (h : run.Fits)
    (hjobs : run.pending + items + run.processing + run.done < UInt64.size) :
    (run.seed items).Fits :=
  ⟨hjobs, h.items, h.startedAtMs, h.finishedAtMs, h.drainTimeMs⟩

theorem Fits.start (h : run.Fits) (mode : Mode) {now : Nat} (hnow : now < UInt64.size) :
    (run.start mode now).Fits := by
  have hjobs := h.jobs
  refine ⟨h.jobs, ?_, fun time htime => ?_, h.finishedAtMs, h.drainTimeMs⟩
  · show run.pending < UInt64.size
    omega
  · obtain rfl := Option.some.inj htime
    exact hnow

/-- A step only moves jobs. -/
theorem Fits.advance (h : run.Fits) (batch : Nat) {now : Nat} (hnow : now < UInt64.size) :
    (run.advance batch now).Fits := by
  rcases hmode : run.mode with _ | mode
  · rw [advance_of_mode_eq_none hmode]
    exact h
  · have hsome : run.mode.isSome := by rw [hmode]; rfl
    have hstep := advance_of_mode hsome batch now
    have hjobs := h.jobs
    have hmoved : (run.advance batch now).pending + (run.advance batch now).processing +
        (run.advance batch now).done < UInt64.size := by
      rw [hstep.pending, hstep.processing, hstep.done]
      omega
    have hitems := hstep.items ▸ h.items
    have hstarted := hstep.startedAtMs ▸ h.startedAtMs
    rcases hstep.finish with ⟨hfinished, hdrain⟩ | ⟨-, hfinished, started, -, hdrain⟩
    · exact ⟨hmoved, hitems, hstarted, hfinished ▸ h.finishedAtMs, hdrain ▸ h.drainTimeMs⟩
    · refine ⟨hmoved, hitems, hstarted, fun time htime => ?_, fun ms hms => ?_⟩
      · obtain rfl := Option.some.inj (hfinished.symm.trans htime)
        exact hnow
      · obtain rfl := Option.some.inj (hdrain.symm.trans hms)
        exact Nat.lt_of_le_of_lt (Nat.sub_le now started) hnow

theorem Fits.advanceAll {times : List Nat} (h : run.Fits) (batch : Nat)
    (htimes : ∀ now ∈ times, now < UInt64.size) : (run.advanceAll batch times).Fits := by
  induction times generalizing run with
  | nil => exact h
  | cons now times ih =>
    obtain ⟨hnow, htimes⟩ := List.forall_mem_cons.mp htimes
    exact ih (h.advance batch hnow) htimes

/-! ### The numbers of a report -/

theorem errors_lt (hoptions : options.Fits) (run : Run) : run.errors options < UInt64.size := by
  rw [errors]
  split
  · exact hoptions.errors
  · decide

theorem retries_lt (hoptions : options.Fits) (run : Run) : run.retries options < UInt64.size := by
  rw [retries]
  split
  · exact hoptions.retries
  · decide

theorem elapsedMs_lt (h : run.Fits) : run.elapsedMs < UInt64.size := by
  rw [elapsedMs]
  rcases hdrain : run.drainTimeMs with _ | ms
  · decide
  · exact h.drainTimeMs ms hdrain

/-- Jobs and minutes of 64 bits make a rate with no more than a few digits more. -/
theorem jobsPerMinute_lt (h : run.Fits) :
    run.jobsPerMinute.units < Binary64.unitsPerOne * 10 ^ 100 := by
  have hzero : (Binary64.zero false).units < Binary64.unitsPerOne * 10 ^ 100 := by decide +kernel
  rw [jobsPerMinute]
  split
  · next hpos =>
    have hdone : run.done < 2 ^ 64 := Nat.lt_of_le_of_lt (Nat.le_add_left _ _) h.jobs
    have hdrain : run.elapsedMs < 2 ^ 64 := elapsedMs_lt h
    have hproduct : (Binary64.ofNat run.done * Binary64.ofNat 60000).IsBelow 1157 :=
      Binary64.mul_isBelow (Binary64.ofNat_isBelow hdone (by decide))
        (Binary64.ofNat_isBelow (show 60000 < 2 ^ 16 by decide) (by decide)) (by decide) (by decide)
    have hone := Binary64.le_units_ofNat hpos
    have hquotient := Binary64.div_isBelow (c := 1157) (k := 0) hproduct
      (Binary64.ofNat_isBelow hdrain (by decide)).1 (by rwa [Nat.pow_zero, Nat.one_mul]) (by decide)
    exact Nat.lt_trans hquotient.2 (by decide +kernel)
  · exact hzero

/-! ### Reading -/

theorem readable_orNull {α : Type} (limit : Nat) (encode : α → Json) {a : Option α}
    (h : ∀ x ∈ a, (encode x).Readable limit) : (orNull encode a).Readable limit := by
  rcases a with _ | x
  · exact Json.readable_null limit
  · exact h x rfl

/-- **A report can be read back.** -/
theorem readable_report (hoptions : options.Fits) (h : run.Fits) :
    (Json.object (run.report options)).Readable Json.nestingLimit := by
  have hjobs := h.jobs
  have hdone : run.done < UInt64.size := by omega
  have hsuccess : run.done - run.errors options < UInt64.size :=
    Nat.lt_of_le_of_lt (Nat.sub_le _ _) hdone
  have hnat : ∀ n < UInt64.size, (Json.ofNat n).Readable 126 :=
    fun n hn => Json.readable_ofNat 126 hn
  have herrors := hnat _ (errors_lt hoptions run)
  have hretries := hnat _ (retries_lt hoptions run)
  -- all that may be missing in a report
  have hrunId := readable_orNull 126 (fun _ => Json.string ("run-" ++ toString run.id))
    fun (_ : Mode) (_ : _ ∈ run.mode) => Json.readable_string 126 _
  have hmode := readable_orNull 126 (fun m => Json.string m.name)
    fun (_ : Mode) (_ : _ ∈ run.mode) => Json.readable_string 126 _
  have hstartedAt := readable_orNull 126 .ofNat fun t ht => hnat t (h.startedAtMs t ht)
  have hfinishedAt := readable_orNull 126 .ofNat fun t ht => hnat t (h.finishedAtMs t ht)
  have hdrainTime := readable_orNull 126 .ofNat fun t ht => hnat t (h.drainTimeMs t ht)
  refine Json.readable_ofBindings ?_
  simp only [List.forall_mem_cons]
  refine ⟨hnat _ (by omega), hnat _ (by omega), hnat _ hdone, herrors, hnat 0 (by decide),
    hnat _ hdone, hnat _ hsuccess, herrors, hretries, hnat 0 (by decide), hnat _ ?_,
    hnat _ (elapsedMs_lt h), Json.readable_ofFloat 126 (jobsPerMinute_lt h) (by decide), hrunId,
    Json.readable_string 126 _, hmode, hnat _ h.items, hstartedAt, hfinishedAt, hdrainTime,
    hnat _ hsuccess, herrors, hretries, Json.readable_bool 126 _, nofun⟩
  split <;> decide

/-- A report that was read from what a lab shows of a run. -/
def Shows (options : Options) (run : Run) (report : Report) : Prop :=
  report.fields = (run.report options).mapValues Json.reread

namespace Shows

variable {report : Report}

/-- What was written under a key can be read there. -/
theorem get? (h : run.Shows options report) {key : String} {value : Json}
    (hwritten : (run.report options).get? key = some value) (hvalue : value.reread = value) :
    report.get? key = some value := by
  rw [Report.get?, h, Json.Fields.get?_mapValues, hwritten, Option.map_some, hvalue]

theorem get?_ofNat (h : run.Shows options report) {key : String} {n : Nat}
    (hwritten : (run.report options).get? key = some (.ofNat n)) (hn : n < UInt64.size) :
    report.get? key = some (.ofNat n) :=
  h.get? hwritten (Json.reread_ofNat hn)

theorem get?_pending (h : run.Shows options report) (hrun : run.Fits) :
    report.get? "pending" = some (.ofNat run.pending) :=
  h.get?_ofNat (by rw [Run.report, Json.Fields.get?_ofList]; rfl) (by have := hrun.jobs; omega)

theorem get?_processing (h : run.Shows options report) (hrun : run.Fits) :
    report.get? "processing" = some (.ofNat run.processing) :=
  h.get?_ofNat (by rw [Run.report, Json.Fields.get?_ofList]; rfl) (by have := hrun.jobs; omega)

theorem get?_retryScheduled (h : run.Shows options report) :
    report.get? "retryScheduled" = some (.ofNat 0) :=
  h.get?_ofNat (by rw [Run.report, Json.Fields.get?_ofList]; rfl) (by decide)

theorem get?_totalProcessed (h : run.Shows options report) (hrun : run.Fits) :
    report.get? "totalProcessed" = some (.ofNat run.done) :=
  h.get?_ofNat (by rw [Run.report, Json.Fields.get?_ofList]; rfl) (by have := hrun.jobs; omega)

/-- What a report says of a dispatch. -/
theorem get?_dispatch (h : run.Shows options report) (hrun : run.Fits) {mode : Mode}
    (hmode : run.mode = some mode) :
    report.get? "items" = some (.ofNat run.items) ∧
      report.get? "mode" = some (.string mode.name) ∧
      report.get? "runId" = some (.string ("run-" ++ toString run.id)) := by
  refine ⟨h.get?_ofNat ?_ hrun.items, h.get? ?_ (by rw [Json.reread]),
    h.get? ?_ (by rw [Json.reread])⟩
  · rw [Run.report, Json.Fields.get?_ofList]
    rfl
  · rw [Run.report, Json.Fields.get?_ofList, hmode]
    rfl
  · rw [Run.report, Json.Fields.get?_ofList, hmode]
    rfl

/-- A number of jobs counts for nothing only if there are none. -/
theorem count_eq_zero_iff {key : String} {n : Nat} (h : report.get? key = some (.ofNat n)) :
    report.count key = 0 ↔ n = 0 := by
  rw [Report.count_of_stores (n := .int n) h, Json.Number.toInt64_eq_zero_iff, Json.Number.value,
    Json.Number.isNaN, Int.cast_natCast, Nat.abs_cast, Nat.cast_lt_one]
  simp

/-- **A report shows that nothing is left exactly if nothing is left.** -/
theorem isDrained_iff (h : run.Shows options report) (hrun : run.Fits) :
    report.isDrained ↔ run.isDrained := by
  rw [Report.isDrained, decide_eq_true_iff, Report.pending, Report.processing,
    Report.retryScheduled, count_eq_zero_iff (h.get?_pending hrun),
    count_eq_zero_iff (h.get?_processing hrun), count_eq_zero_iff h.get?_retryScheduled,
    Run.isDrained_iff]
  simp

end Shows

end Run

end QueueDrain.Lab
