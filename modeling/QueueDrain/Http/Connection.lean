import QueueDrain.Http.Wire
import QueueDrain.Url.Request
import Std.Async.DNS
import Std.Async.TCP
import Std.Async.Timer

/-!
Exchanges over a real network.

Each exchange has a connection of its own.  Only plain connections can be made, so a secure address
is one that cannot be reached.
-/

namespace QueueDrain.Http

open Std.Async

/-- How long it may take to connect. -/
def connectTimeoutMs : Nat := 3000

/-- Waits for some milliseconds. -/
def pause (ms : Nat) : Async Unit := sleep (.ofNat ms)

/-- What some work gives, or something else when it has not ended after some milliseconds. -/
def within {α : Type} [Inhabited α] (ms : Nat) (late : Async α) (work : Async α) : Async α :=
  Async.race work do
    pause ms
    late

def connect (address : Std.Net.SocketAddress) : Async TCP.Socket.Client := do
  let client ← TCP.Socket.Client.mk
  client.connect address
  return client

def socketAddress (address : Std.Net.IPAddr) (port : UInt16) : Std.Net.SocketAddress :=
  match address with
  | .v4 addr => .v4 { addr, port }
  | .v6 addr => .v6 { addr, port }

def resolve (host : String) : Async (Array Std.Net.IPAddr) :=
  match Std.Net.IPv4Addr.ofString host, Std.Net.IPv6Addr.ofString host with
  | some addr, _ => return #[.v4 addr]
  | none, some addr => return #[.v6 addr]
  | none, none => DNS.getAddrInfo host ""

/-- A connection to the first address of a host that takes one. -/
def connectTo (host : String) (port : UInt16) : Async TCP.Socket.Client := do
  for address in ← resolve host do
    try
      return ← connect (socketAddress address port)
    catch _ => pure ()
  throw (IO.userError "no address of the host takes a connection")

/-- Reads from a connection until the exchange has ended. -/
partial def receive (client : TCP.Socket.Client) (bytes : ByteArray) : Async Delivery := do
  match deliver? false bytes.toList with
  | some delivery => return delivery
  | none =>
    let more ←
      try
        client.recv? 65536
      catch _ => pure none
    match more with
    | some more => receive client (bytes ++ more)
    | none => return (deliver? true bytes.toList).getD .unanswered

instance : Inhabited Delivery := ⟨.unanswered⟩

/-- Makes a request and reads the response. -/
def attempt (request : Request) (place : Url.RequestPlace) : Async Delivery := do
  try
    let connected ←
      within connectTimeoutMs (pure none) (some <$> connectTo place.host place.port.toUInt16)
    match connected with
    | none => return .unanswered
    | some client =>
      client.send ⟨(writeRequest request.method place.authority place.target).toArray⟩
      receive client .empty
  catch _ => return .unanswered

/-- Makes a request and waits for the response for a limited time. -/
def exchange (request : Request) (limitMs : Nat) : IO Delivery :=
  match Url.requestPlace? request.url.toList with
  | some place =>
    if place.secure then return .unanswered
    else (within limitMs (pure .late) (attempt request place)).block
  | none => return .unanswered

end QueueDrain.Http
