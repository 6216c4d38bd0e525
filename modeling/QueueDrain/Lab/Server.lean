import QueueDrain.Http.Connection
import QueueDrain.Lab.CommandLine
import QueueDrain.Lab.Service
import Std.Async.Signal
import Std.Time

/-!
A lab that is served over a real network.

Each connection brings one request.  The lab is shared by all of them, and answers them one at a
time.
-/

namespace QueueDrain.Lab.Server

open Std.Async

/-- Reads from a connection until a request has arrived. -/
partial def receive (client : TCP.Socket.Client) (bytes : ByteArray) :
    Async (Option (String × String)) := do
  match Http.readRequest? bytes.toList with
  | some request => return request
  | none =>
    match ← client.recv? 65536 with
    | some more => receive client (bytes ++ more)
    | none => return none

/-- Waits until the other end closes a connection. -/
partial def untilClosed (client : TCP.Socket.Client) : Async Unit := do
  match ← client.recv? 65536 with
  | some _ => untilClosed client
  | none => return ()

def send (client : TCP.Socket.Client) (bytes : List UInt8) : Async Unit :=
  client.send ⟨bytes.toArray⟩

/-- Answers a request. -/
def answer (client : TCP.Socket.Client) (response : Response) : Async Unit :=
  match response.body with
  | .text s =>
    send client
      (Http.writeResponse response.status "text/plain; charset=utf-8" (Text.Utf8.encode s.toList))
  | .json fields =>
    send client
      (Http.writeResponse response.status "application/json" (Text.Utf8.encode fields.text.toList))
  | .stalled => do
    send client (Http.writeOpenResponse response.status)
    untilClosed client

/-- Serves one connection. -/
def serveClient (options : Options) (lab : IO.Ref Lab) (client : TCP.Socket.Client) :
    Async Unit := do
  try
    if let some (method, target) ← receive client .empty then
      let now := (← Std.Time.Timestamp.now).toMillisecondsSinceUnixEpoch.val.toNat
      let response ← lab.modifyGet fun lab => lab.respond options now method target
      answer client response
    client.shutdown
  catch _ => return ()

/-- Serves all connections. -/
partial def serve (options : Options) (lab : IO.Ref Lab) (server : TCP.Socket.Server) :
    Async Unit := do
  let client ← server.accept
  background (serveClient options lab client)
  serve options lab server

/-- The socket address that a text spells. -/
def address? (s : String) : Option Std.Net.SocketAddress := do
  let (port, host) := s.toList.reverse.span (· != ':')
  let host := String.ofList ((host.drop 1).reverse.filter fun c => c != '[' && c != ']')
  let port := ((← (Text.readNat64 port.reverse).toOption)).toUInt16
  match Std.Net.IPv4Addr.ofString host, Std.Net.IPv6Addr.ofString host with
  | some addr, _ => some (.v4 { addr, port })
  | none, some addr => some (.v6 { addr, port })
  | none, none => none

/-- A socket address as it stands in a URL. -/
def addressText : Std.Net.SocketAddress → String
  | .v4 a => toString a.addr ++ ":" ++ toString a.port
  | .v6 a => "[" ++ toString a.addr ++ "]:" ++ toString a.port

def listen (address : Std.Net.SocketAddress) : IO TCP.Socket.Server := do
  let server ← TCP.Socket.Server.mk
  server.bind address
  server.listen 128
  return server

/-- Serves a lab until the program is interrupted. -/
def run (invocation : Invocation) : IO UInt32 := do
  match address? invocation.bind with
  | none =>
    (← IO.getStderr).putStrLn (StartupError.display .invalidAddress)
    return 1
  | some address =>
    let server ← listen address
    let lab ← IO.mkRef {}
    let interrupted ← Signal.Waiter.mk .sigint false
    IO.println ("BASE_URL=http://" ++ addressText (← server.getSockName))
    (← IO.getStdout).flush
    Async.block (Async.race (serve invocation.options lab server) do
      let _ ← await (← interrupted.wait)
      return ())
    return 0

/-- Runs the command line of a lab that is served on its own, and gives the exit code. -/
def runCommandLine (args : List String) : IO UInt32 := do
  match Startup.parse args with
  | .error e =>
    (← IO.getStderr).putStrLn e.display
    return 1
  | .ok .help =>
    (← IO.getStderr).putStrLn helpText
    return 0
  | .ok (.serve invocation) => run invocation

end QueueDrain.Lab.Server
