import QueueDrain.Mode

/-!
Where a run writes its two tables.

Both names carry the time stamp of the run, and their first word tells the profile.
-/

namespace QueueDrain.Output

/-- A name inside a directory; the directory may already end with a slash. -/
def join (dir name : String) : String :=
  if dir = "" ∨ dir.toList.getLast? = some '/' then dir ++ name else dir ++ "/" ++ name

/-- The files of one run. -/
structure Paths where
  detail : String
  summary : String
deriving DecidableEq

/-- The start of the file names of a profile. -/
def stem : Profile → String
  | .flow => "flow-compare"
  | .memory => "memory-compare"

def detailName (profile : Profile) (stamp : Nat) : String :=
  stem profile ++ "-" ++ toString stamp ++ ".csv"

def summaryName (profile : Profile) (stamp : Nat) : String :=
  stem profile ++ "-summary-" ++ toString stamp ++ ".csv"

/-- The files of a run with this time stamp. -/
def Paths.at (dir : String) (profile : Profile) (stamp : Nat) : Paths where
  detail := join dir (detailName profile stamp)
  summary := join dir (summaryName profile stamp)

end QueueDrain.Output
