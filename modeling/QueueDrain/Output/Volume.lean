import QueueDrain.Text.Blank

/-!
A file system in memory: directories and text files under one root, and a working directory.

A path is looked up from left to right; `..` leads to the parent, and the parent of the root is the
root.
-/

namespace QueueDrain.Output

/-- The names on the way from the root to an entry. -/
abbrev Location := List String

/-- What there can be at a location. -/
inductive Entry where
  | directory
  | file (content : String)
deriving DecidableEq

/-- Why something cannot be done to a file system. -/
inductive Fault where
  /-- Something else is there already. -/
  | alreadyExists
  /-- A file stands where a directory is needed. -/
  | notDirectory
  /-- A directory stands where a file is needed. -/
  | isDirectory
  | notFound
deriving DecidableEq

/-- The wording of a fault. -/
def Fault.message : Fault → String
  | .alreadyExists => "File exists (os error 17)"
  | .notDirectory => "Not a directory (os error 20)"
  | .isDirectory => "Is a directory (os error 21)"
  | .notFound => "No such file or directory (os error 2)"

/-- A file system; the root is a directory that is always there. -/
structure Volume where
  entries : List (Location × Entry) := []
  /-- The working directory, which relative paths start from. -/
  current : Location := []

namespace Volume

def get? (volume : Volume) (place : Location) : Option Entry :=
  if place = [] then some .directory else volume.entries.lookup place

/-- The volume with an entry at a location, in place of what was there. -/
def put (place : Location) (entry : Entry) (volume : Volume) : Volume :=
  { volume with entries := (place, entry) :: volume.entries.filter (·.1 ≠ place) }

/-- The names in a path. -/
def names (path : String) : List String :=
  ((Text.split '/' path.toList).map String.ofList).filter fun name => name ≠ "" ∧ name ≠ "."

/-- Where a path starts. -/
def start (volume : Volume) (path : String) : Location :=
  if path.toList.head? = some '/' then [] else volume.current

/-- The location of a name inside a directory. -/
def child (dir : Location) (name : String) : Location :=
  if name = ".." then dir.dropLast else dir ++ [name]

/-- The location that a path leads to. -/
def locate (volume : Volume) (path : String) : Location :=
  (names path).foldl child (volume.start path)

/-- Whether there is something at the end of a path. -/
def contains (volume : Volume) (path : String) : Bool := (volume.get? (volume.locate path)).isSome

/-- Makes the directories on a way that starts in a directory. -/
def makeFrom (volume : Volume) (dir : Location) : List String → Except Fault Volume
  | [] => .ok volume
  | name :: more =>
    match volume.get? (child dir name) with
    | some .directory => volume.makeFrom (child dir name) more
    | some (.file _) => .error (if more = [] then .alreadyExists else .notDirectory)
    | none => (volume.put (child dir name) .directory).makeFrom (child dir name) more

/-- Makes all directories of a path that are not there. -/
def makeDirectories (volume : Volume) (path : String) : Except Fault Volume :=
  volume.makeFrom (volume.start path) (names path)

/-- Writes a file, in place of what it held, into a directory that is there. -/
def write (volume : Volume) (path content : String) : Except Fault Volume :=
  let place := volume.locate path
  match volume.get? place with
  | some .directory => .error .isDirectory
  | _ =>
    match volume.get? place.dropLast with
    | some .directory => .ok (volume.put place (.file content))
    | some (.file _) => .error .notDirectory
    | none => .error .notFound

/-- Writes to the end of a file. -/
def append (volume : Volume) (path content : String) : Except Fault Volume :=
  match volume.get? (volume.locate path) with
  | some (.file old) => .ok (volume.put (volume.locate path) (.file (old ++ content)))
  | some .directory => .error .isDirectory
  | none => .error .notFound

end Volume

end QueueDrain.Output
