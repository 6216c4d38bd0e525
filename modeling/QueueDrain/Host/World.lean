import QueueDrain.Host.Basic
import QueueDrain.Http.Virtual
import QueueDrain.Output.Volume

/-!
A whole run in a world of its own: a virtual clock, a network with a state, and a file system in
memory.
-/

namespace QueueDrain

/-- A world, with all that has been printed and logged, the last line first. -/
structure World (σ : Type) where
  session : Session σ
  volume : Output.Volume := {}
  /-- The time stamp of the next run. -/
  stamp : Nat := 0
  printed : List String := []
  logged : List LogLine := []

namespace World

variable {σ : Type}

def inSession {α : Type} (act : StateM (Session σ) α) : StateM (World σ) α := fun w =>
  let (a, session) := act w.session
  (a, { w with session := session })

/-- Acts on the file system alone; where that is not possible, nothing changes. -/
def onVolume (act : Output.Volume → Except Output.Fault Output.Volume) :
    StateM (World σ) (Except String Unit) := fun w =>
  match act w.volume with
  | .ok volume => (.ok (), { w with volume := volume })
  | .error fault => (.error fault.message, w)

/-- The first time stamp from some stamp on for which there are no tables, among so many. -/
def freshStamp (volume : Output.Volume) (dir : String) (profile : Profile) :
    (tries stamp : Nat) → Nat
  | 0, stamp => stamp
  | tries + 1, stamp =>
    let paths := Output.Paths.at dir profile stamp
    if volume.contains paths.detail ∨ volume.contains paths.summary then
      freshStamp volume dir profile tries (stamp + 1)
    else stamp

/-- The surroundings of a run that reaches the system under test over a network. -/
def host (network : Http.Network σ) : Host (StateM (World σ)) where
  bench client := (Session.bench (client.target network) fun _ => none).lift inSession
  makeDirectories path := onVolume (·.makeDirectories path)
  freshPaths dir profile := fun w =>
    (Output.Paths.at dir profile
      (freshStamp w.volume dir profile w.volume.entries.length w.stamp), w)
  write path content := onVolume (·.write path content)
  append path content := onVolume (·.append path content)
  print line := fun w => ((), { w with printed := line :: w.printed })
  log line := fun w => ((), { w with logged := line :: w.logged })

end World

end QueueDrain
