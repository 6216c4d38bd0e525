import QueueDrain.Proofs.Binary64.Whole
import QueueDrain.Report

/-!
What the fields of a report count for.

A field counts for the number that it stores, cut off toward zero and clamped to the signed numbers
of 64 bits (`Json.Number.toInt64_eq`).  Integers that are too large for these are clamped as
doubles; that makes no difference, because a double does not get past a power of two by being
rounded.

* `Report.Counted`: what each field counts for, and when a report shows that no work is left;
* `Report.counted`: this is so for all reports.
-/

namespace QueueDrain

namespace Json.Number

/-- The value of a number. -/
def value : Number → ℚ
  | .int n => n
  | .float x => x.value

/-- Whether there is no value; no document that is read has such a number. -/
def isNaN : Number → Bool
  | .int _ => false
  | .float x => x.isNaN

/-- The signed number of 64 bits that is nearest. -/
def clamp64 (n : ℤ) : ℤ := max (-Text.int64Limit) (min (Text.int64Limit - 1) n)

theorem int64Limit_eq : Text.int64Limit = 2 ^ 63 := rfl

theorem clamp64_of_lt {n : ℤ} (hlow : -(Text.int64Limit : ℤ) ≤ n) (hhigh : n < Text.int64Limit) :
    clamp64 n = n := by
  rw [clamp64]
  omega

theorem clamp64_of_le {n : ℤ} (h : (Text.int64Limit : ℤ) ≤ n) :
    clamp64 n = Text.int64Limit - 1 := by
  have hlimit : (1 : ℤ) < Text.int64Limit := by decide
  rw [clamp64]
  omega

theorem clamp64_of_le_neg {n : ℤ} (h : n ≤ -(Text.int64Limit : ℤ)) :
    clamp64 n = -Text.int64Limit := by
  have hlimit : (1 : ℤ) < Text.int64Limit := by decide
  rw [clamp64]
  omega

theorem clamp64_eq_zero_iff (n : ℤ) : clamp64 n = 0 ↔ n = 0 := by
  have hlimit : (1 : ℤ) < Text.int64Limit := by decide
  rw [clamp64]
  omega

/-- What is out of bounds is clamped to the same end as an integer and as a double. -/
theorem clamp64_wholePart_ofInt {n : ℤ}
    (h : ¬(-(Text.int64Limit : ℤ) ≤ n ∧ n < Text.int64Limit)) :
    clamp64 (Binary64.wholePart (Binary64.ofInt n).value) = clamp64 n := by
  have hlarge : 2 ^ 63 ≤ n.natAbs := by
    rw [int64Limit_eq] at h
    omega
  obtain ⟨hhigh, hlow⟩ := Binary64.wholePart_ofInt_of_pow_le (by decide) hlarge
  rw [← int64Limit_eq] at hhigh hlow hlarge
  rcases Int.lt_or_le n 0 with hn | hn
  · rw [clamp64_of_le_neg (hlow hn), clamp64_of_le_neg (by omega)]
  · rw [clamp64_of_le (hhigh hn), clamp64_of_le (by omega)]

theorem truncate_toFloat {n : Number} (h : n.toFloat.isNaN = false) :
    n.toFloat.truncate (-Text.int64Limit) (Text.int64Limit - 1) =
      clamp64 (Binary64.wholePart n.toFloat.value) :=
  Binary64.truncate_eq h (by decide) (by decide +kernel) (by decide +kernel)

/-- **A number is cut off toward zero and then clamped**, integers of any size included. -/
theorem toInt64_eq {n : Number} (h : n.isNaN = false) :
    n.toInt64 = clamp64 (Binary64.wholePart n.value) := by
  cases n with
  | float x => exact truncate_toFloat h
  | int n =>
    rw [value, Binary64.wholePart_intCast, toInt64, int64?]
    by_cases hfits : -(Text.int64Limit : ℤ) ≤ n ∧ n < Text.int64Limit
    · rw [if_pos hfits, Option.getD_some, clamp64_of_lt hfits.1 hfits.2]
    · rw [if_neg hfits, Option.getD_none, truncate_toFloat (n := .int n) (Binary64.isNaN_ofInt n)]
      exact clamp64_wholePart_ofInt hfits

example : (Number.int (2 ^ 64 - 1)).toInt64 = 2 ^ 63 - 1 := by decide +kernel

theorem toInt64_of_isNaN {n : Number} (h : n.isNaN = true) : n.toInt64 = 0 := by
  cases n with
  | int n => exact absurd h Bool.false_ne_true
  | float x =>
    show x.truncate _ _ = 0
    exact if_pos h

/-- Only what is between minus one and one counts for nothing. -/
theorem toInt64_eq_zero_iff (n : Number) : n.toInt64 = 0 ↔ n.isNaN = true ∨ |n.value| < 1 := by
  cases h : n.isNaN with
  | true => simp [toInt64_of_isNaN h]
  | false =>
    rw [toInt64_eq h, clamp64_eq_zero_iff, Binary64.wholePart_eq_zero_iff]
    simp

end Json.Number

namespace Report

open Json.Number (clamp64)

/-- The fields that tell whether work is left. -/
def counters : List String := ["pending", "processing", "retryScheduled"]

/-- A field stores a number. -/
def Stores (report : Report) (key : String) (n : Json.Number) : Prop :=
  report.get? key = some (.number n)

variable {report : Report} {key : String}

theorem count_of_stores {n : Json.Number} (h : report.Stores key n) :
    report.count key = n.toInt64 := by
  rw [count, number?, h]
  rfl

/-- A field that is missing, or has anything but a number, counts for nothing. -/
theorem count_of_not_stores (h : ∀ n, ¬report.Stores key n) : report.count key = 0 := by
  rw [count, number?]
  cases hget : report.get? key with
  | none => rfl
  | some v =>
    cases v with
    | number n => exact absurd hget (h n)
    | null | bool | string | array | object => rfl

theorem count_eq_zero_iff :
    report.count key = 0 ↔ ∀ n, report.Stores key n → n.isNaN = true ∨ |n.value| < 1 := by
  by_cases hstores : ∃ n, report.Stores key n
  · obtain ⟨n, hn⟩ := hstores
    rw [count_of_stores hn, Json.Number.toInt64_eq_zero_iff]
    refine ⟨fun h m hm => ?_, fun h => h n hn⟩
    obtain rfl : n = m := by cases hn.symm.trans hm; rfl
    exact h
  · have hnone : ∀ n, ¬report.Stores key n := fun n hn => hstores ⟨n, hn⟩
    exact iff_of_true (count_of_not_stores hnone) fun n hn => absurd hn (hnone n)

theorem isDrained_iff_count : report.isDrained ↔ ∀ key ∈ counters, report.count key = 0 := by
  rw [isDrained, decide_eq_true_iff, pending, processing, retryScheduled]
  simp [counters]

/-- What the fields of a report count for. -/
structure Counted (report : Report) : Prop where
  /-- Without a number a field counts for nothing. -/
  nothing : ∀ key, (∀ n, ¬report.Stores key n) → report.count key = 0
  /-- A number counts for its whole part, as far as that fits. -/
  wholePart : ∀ key n, report.Stores key n → n.isNaN = false →
    report.count key = clamp64 (Binary64.wholePart n.value)
  /-- Integers count for themselves, however large they are, up to the largest that fits. -/
  exact : ∀ key (n : ℤ), report.Stores key (.int n) → -(Text.int64Limit : ℤ) ≤ n →
    n < Text.int64Limit → report.count key = n
  /-- From there on they all count for the largest one. -/
  large : ∀ key (n : ℤ), report.Stores key (.int n) → (Text.int64Limit : ℤ) ≤ n →
    report.count key = Text.int64Limit - 1
  /-- Doubles are held at both ends. -/
  high : ∀ key x, report.Stores key (.float x) → x.isNaN = false → Text.int64Limit ≤ x.value →
    report.count key = Text.int64Limit - 1
  low : ∀ key x, report.Stores key (.float x) → x.isNaN = false → x.value ≤ -Text.int64Limit →
    report.count key = -Text.int64Limit
  /-- Work is left exactly if a counter stores a number that is at least one in absolute value. -/
  isDrained_iff : report.isDrained ↔
    ¬∃ key ∈ counters, ∃ n, report.Stores key n ∧ n.isNaN = false ∧ 1 ≤ |n.value|
  /-- All other fields are of no account. -/
  others : ∀ other : Report, (∀ key ∈ counters, other.get? key = report.get? key) →
    other.isDrained = report.isDrained

/-- **What fields count for**, in all reports. -/
theorem counted (report : Report) : report.Counted := by
  have hwhole : ∀ key n, report.Stores key n → n.isNaN = false →
      report.count key = clamp64 (Binary64.wholePart n.value) :=
    fun key n hstores hn => (count_of_stores hstores).trans (Json.Number.toInt64_eq hn)
  refine ⟨fun key => count_of_not_stores, hwhole, ?_, ?_, ?_, ?_, ?_, ?_⟩
  · intro key n hstores hlow hhigh
    rw [hwhole key _ hstores rfl, Json.Number.value, Binary64.wholePart_intCast,
      Json.Number.clamp64_of_lt hlow hhigh]
  · intro key n hstores hlarge
    rw [hwhole key _ hstores rfl, Json.Number.value, Binary64.wholePart_intCast,
      Json.Number.clamp64_of_le hlarge]
  · intro key x hstores hx hhigh
    rw [hwhole key _ hstores hx, Json.Number.clamp64_of_le]
    exact Binary64.le_wholePart (by decide) (by exact_mod_cast hhigh)
  · intro key x hstores hx hlow
    rw [hwhole key _ hstores hx, Json.Number.clamp64_of_le_neg]
    exact Binary64.wholePart_le (by decide) (by push_cast; exact_mod_cast hlow)
  · rw [isDrained_iff_count]
    simp only [count_eq_zero_iff, not_exists, not_and, not_le,
      or_iff_not_imp_left, Bool.not_eq_true]
  · intro other hother
    have hcount : ∀ key ∈ counters, other.count key = report.count key := fun key hkey => by
      rw [count, count, number?, number?, hother key hkey]
    refine Bool.eq_iff_iff.mpr ?_
    rw [isDrained_iff_count, isDrained_iff_count]
    exact forall₂_congr fun key hkey => by rw [hcount key hkey]

/-- A report with a large number, one that is all but one, and a text. -/
def almostDone : Report where
  fields := [("pending", .number (.int (2 ^ 64 - 1))),
    ("processing", .number (.float (.ofDecimal true ⟨999, -3⟩))), ("retryScheduled", .string "1")]

theorem counted_almostDone : almostDone.count "pending" = 2 ^ 63 - 1 ∧
    almostDone.count "retryScheduled" = 0 ∧ ¬almostDone.isDrained := by
  have hpending : almostDone.Stores "pending" (.int (2 ^ 64 - 1)) := rfl
  refine ⟨(counted almostDone).large _ _ hpending (by decide),
    (counted almostDone).nothing _ (fun n hn => by cases hn), ?_⟩
  rw [(counted almostDone).isDrained_iff, not_not]
  refine ⟨"pending", by decide, _, hpending, rfl, ?_⟩
  norm_num [Json.Number.value]

end Report

end QueueDrain
