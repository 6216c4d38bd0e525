import QueueDrain.Json.Basic

/-!
Heap measurements: the samples of one run (`Series`), in bytes, and their statistics (`Summary`), in
mebibytes with two decimals.

The statistics exist only if there is a sample of the used heap.  Percentiles are taken from the
ordered samples by position, without interpolation, and sums run in that order too, so the
statistics do not depend on the order in which the used heap was sampled.
-/

namespace QueueDrain

/-- Two decimals, and a tie between two of them goes to the even one. -/
def Binary64.hundredths (x : Binary64) : Binary64 :=
  (x * .ofNat 100).roundTiesEven / .ofNat 100

namespace Heap

/-- The quantities that are sampled, in the order in which a tick asks for them. -/
inductive Metric where
  | used
  | max
  | committed
deriving DecidableEq

namespace Metric

/-- All metrics, in the order of a tick. -/
def all : List Metric := [.used, .max, .committed]

def name : Metric → String
  | .used => "used"
  | .max => "max"
  | .committed => "committed"

/-- The metric with exactly this name. -/
def ofName? (s : String) : Option Metric := all.find? (·.name == s)

end Metric

/-- The samples of one run in bytes, each metric in the order of its samples. -/
structure Series where
  used : List Binary64 := []
  max : List Binary64 := []
  committed : List Binary64 := []
deriving DecidableEq

namespace Series

/-- The series with one sample more. -/
def push (series : Series) (metric : Metric) (value : Binary64) : Series :=
  match metric with
  | .used => { series with used := series.used ++ [value] }
  | .max => { series with max := series.max ++ [value] }
  | .committed => { series with committed := series.committed ++ [value] }

end Series

/-- The statistics of one run. -/
structure Summary where
  /-- The number of samples of the used heap. -/
  samples : Nat := 0
  usedMin : Binary64 := .zero false
  usedMax : Binary64 := .zero false
  usedAvg : Binary64 := .zero false
  usedP95 : Binary64 := .zero false
  usedP99 : Binary64 := .zero false
  max : Binary64 := .zero false
  committedMin : Binary64 := .zero false
  committedMax : Binary64 := .zero false
  committedAvg : Binary64 := .zero false
deriving DecidableEq

namespace Summary

/-- Whether there was no sample. -/
def isEmpty (summary : Summary) : Bool := summary.samples == 0

/-- The names of the statistics, in the order of the columns that show them. -/
def names : List String :=
  ["heap_used_min_mb", "heap_used_max_mb", "heap_used_avg_mb", "heap_used_p95_mb",
    "heap_used_p99_mb", "heap_max_mb", "heap_committed_min_mb", "heap_committed_max_mb",
    "heap_committed_avg_mb"]

/-- The statistics, in the order of `names`. -/
def values (s : Summary) : List Binary64 :=
  [s.usedMin, s.usedMax, s.usedAvg, s.usedP95, s.usedP99, s.max, s.committedMin, s.committedMax,
    s.committedAvg]

/-- The statistics as the fields of a record; none if there was no sample. -/
def fields (s : Summary) : Json.Fields :=
  if s.isEmpty then [] else Json.Fields.ofList (names.zip (s.values.map Json.ofFloat))

end Summary

/-! ### Statistics -/

def mebibytes (bytes : Binary64) : Binary64 := bytes / .ofNat 1024 / .ofNat 1024

/-- The smallest number of a list. -/
def least (values : List Binary64) : Binary64 := values.foldl .minimum (.infinity false)

/-- The largest number of a list. -/
def greatest (values : List Binary64) : Binary64 := values.foldl .maximum (.infinity true)

/-- The sum of a list from left to right; an empty sum is the negative zero, which adds nothing. -/
def total (values : List Binary64) : Binary64 := values.foldl (· + ·) (.zero true)

/-- The average of a list. -/
def mean (values : List Binary64) : Binary64 := total values / .ofNat values.length

/-- The position of the `q` quantile among `n` ordered values, before it is cut to the last one. -/
def rankIndex (n : Nat) (q : Binary64) : Nat :=
  ((Binary64.ofNat n * q).truncate 0 (UInt64.size - 1)).toNat

/-- The `q` quantile of ordered values: one of them, none if there are none. -/
def nearestRank? (sorted : List Binary64) (q : Binary64) : Option Binary64 :=
  sorted[min (rankIndex sorted.length q) (sorted.length - 1)]?

/-- The quantile that five in a hundred samples lie above. -/
def p95 : Binary64 := .ofDecimal false ⟨95, -2⟩

/-- The quantile that one in a hundred samples lies above. -/
def p99 : Binary64 := .ofDecimal false ⟨99, -2⟩

/-- The used samples in mebibytes, in the total order of doubles. -/
def orderedUsed (series : Series) : List Binary64 :=
  (series.used.map mebibytes).mergeSort Binary64.totalLe

/-- A statistic of a list that may be empty, with two decimals; zero if it is. -/
def statistic (f : List Binary64 → Binary64) (values : List Binary64) : Binary64 :=
  if values = [] then .zero false else (f values).hundredths

/-- The statistics of a series; the percentiles of a single sample are the sample. -/
def Series.summarize (series : Series) : Summary :=
  if series.used = [] then {}
  else
    let used := orderedUsed series
    let committed := series.committed.map mebibytes
    let usedMax := (greatest used).hundredths
    let percentile (q : Binary64) : Binary64 :=
      if 2 ≤ used.length then ((nearestRank? used q).getD (.zero false)).hundredths else usedMax
    { samples := used.length
      usedMin := (least used).hundredths
      usedMax := usedMax
      usedAvg := (mean used).hundredths
      usedP95 := percentile p95
      usedP99 := percentile p99
      max := statistic (mebibytes ∘ greatest) series.max
      committedMin := statistic least committed
      committedMax := statistic greatest committed
      committedAvg := statistic mean committed }

end Heap

end QueueDrain
