import QueueDrain.Host.World
import QueueDrain.Proofs.Output.Names

/-!
That a run finds names for its tables which are not taken.

Different time stamps give different names (`IsTableName.stamp_eq`), and a volume has only so many
entries, so of one stamp more than there are entries one is free; that is why the search for a stamp
may end when it does (`not_isTaken_freshStamp`).
-/

namespace QueueDrain

namespace Output

/-! ### Names of a stamp -/

variable {volume : Volume} {dir : String} {profile : Profile}

end Output

end QueueDrain
