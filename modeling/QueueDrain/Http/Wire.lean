import QueueDrain.Http.Basic
import QueueDrain.Text.Blank
import QueueDrain.Text.Integer
import QueueDrain.Text.Utf8

/-!
Requests and responses as bytes on a connection.

A message starts with a head: lines up to the first empty one.  The head tells how the body is
delimited: there is none, its length is given, it comes in chunks, or it ends with the connection.

`deliver?` is what a client makes of the bytes that have arrived: nothing yet, or how the exchange
ended.  Whether a failure lies before or inside the body is told apart.
-/

namespace QueueDrain.Http

/-! ### Heads -/

/-- A line from its bytes in reverse, without a carriage return at its end. -/
def lineOf : List UInt8 → List Char
  | 13 :: line => (Text.Utf8.characters line).reverse
  | line => (Text.Utf8.characters line).reverse

/--
The lines of a head and what follows it, if the empty line has arrived.  `line` and `lines` are what
has been read, in reverse; empty lines before the head are skipped.
-/
def headFrom? (line : List UInt8) (lines : List (List Char)) :
    List UInt8 → Option (List (List Char) × List UInt8)
  | [] => none
  | b :: rest =>
    if b = 10 then
      match lineOf line, lines with
      | [], [] => headFrom? [] [] rest
      | [], lines => some (lines.reverse, rest)
      | text, lines => headFrom? [] (text :: lines) rest
    else headFrom? (b :: line) lines rest

/-- The lines of a head and what follows it. -/
def head? (bytes : List UInt8) : Option (List (List Char) × List UInt8) := headFrom? [] [] bytes

/-- The name of a header in lower case, and its value without blanks around it. -/
def header? (line : List Char) : Option (String × String) :=
  match line.span (· != ':') with
  | (_, []) => none
  | (name, _ :: value) =>
    some (String.ofList (name.map Char.toLower), String.ofList (Text.trim value))

/-- The value of a header, by its name in lower case. -/
def headerValue? (lines : List (List Char)) (name : String) : Option String :=
  (lines.filterMap header?).lookup name

/-! ### Bodies -/

/-- How a body is delimited. -/
inductive Framing where
  | length (n : Nat)
  | chunked
  | untilClose
deriving DecidableEq

/-- How the body after a head is delimited; `none` if the head is malformed. -/
def framing? (bodiless : Bool) (headers : List (List Char)) : Option Framing :=
  if bodiless then some (.length 0)
  else
    match headerValue? headers "transfer-encoding", headerValue? headers "content-length" with
    | some coding, _ =>
      if coding.toLower.endsWith "chunked" then some .chunked else some .untilClose
    | none, some digits =>
      match Text.readNat64 digits.toList with
      | .ok n => some (.length n)
      | .error _ => none
    | none, none => some .untilClose

/-- What has been read of something. -/
inductive Progress (α : Type) where
  | more
  | invalid
  | done (a : α)

/-- The number at the start of a chunk. -/
def chunkSize? (line : List Char) : Option Nat :=
  match (Text.trim (line.takeWhile (· != ';'))).mapM Text.hexValue? with
  | none | some [] => none
  | some digits => some (digits.foldl (fun n d => n * 16 + d) 0)

/-- The first line, without its end, and what follows it. -/
def line? (bytes : List UInt8) : Option (List Char × List UInt8) :=
  match bytes.span (· != 10) with
  | (_, []) => none
  | (line, _ :: rest) => some (lineOf line.reverse, rest)

/-- The content of chunks; `fuel` bounds their number. -/
def readChunks : (fuel : Nat) → List UInt8 → Progress (List UInt8)
  | 0, _ => .more
  | fuel + 1, bytes =>
    match line? bytes with
    | none => .more
    | some (line, rest) =>
      match chunkSize? line with
      | none => .invalid
      | some 0 => .done []
      | some n =>
        if rest.length < n + 2 then .more
        else
          match readChunks fuel ((rest.drop n).dropWhile fun b => b = 13 || b = 10) with
          | .done content => .done (rest.take n ++ content)
          | other => other

/-- The body at the start of what has arrived. -/
def readBody (framing : Framing) (closed : Bool) (bytes : List UInt8) : Progress (List UInt8) :=
  match framing with
  | .length n => if bytes.length < n then .more else .done (bytes.take n)
  | .chunked => readChunks (bytes.length + 1) bytes
  | .untilClose => if closed then .done bytes else .more

/-! ### Responses -/

/-- The status in the first line of a response. -/
def status? (line : List Char) : Option Nat :=
  match Text.split ' ' line with
  | version :: code :: _ =>
    if "HTTP/1.".toList.isPrefixOf version ∧ code.length = 3 then
      (code.mapM Text.digitValue?).map fun digits => digits.foldl (fun n d => n * 10 + d) 0
    else none
  | _ => none

/-- Whether a response of this status has no body. -/
def isBodiless (status : Nat) : Bool := status < 200 || status = 204 || status = 304

/--
What an exchange has come to, if it has ended.  Responses that only announce another one are
skipped; `fuel` bounds their number.
-/
def deliverFrom? (closed : Bool) : (fuel : Nat) → List UInt8 → Option Delivery
  | 0, _ => some .unanswered
  | fuel + 1, bytes =>
    match head? bytes with
    | none => if closed then some .unanswered else none
    | some ([], _) => some .unanswered
    | some (first :: headers, rest) =>
      match status? first with
      | none => some .unanswered
      | some status =>
        if 100 ≤ status ∧ status < 200 then deliverFrom? closed fuel rest
        else
          match framing? (isBodiless status) headers with
          | none => some .unanswered
          | some framing =>
            match readBody framing closed rest with
            | .done body => some (.complete ⟨status, body⟩)
            | .invalid => some .broken
            | .more => if closed then some .broken else none

/-- What an exchange has come to, if it has ended. -/
def deliver? (closed : Bool) (bytes : List UInt8) : Option Delivery :=
  deliverFrom? closed (bytes.length + 1) bytes

/-! ### Requests -/

/-- The bytes of a request without a body, which asks for the connection to be closed. -/
def writeRequest (method : Method) (host target : String) : List UInt8 :=
  let bodyLength := if method = .post then "content-length: 0\r\n" else ""
  Text.Utf8.encode
    (method.name ++ " " ++ target ++ " HTTP/1.1\r\nhost: " ++ host ++ "\r\n" ++ bodyLength ++
      "connection: close\r\n\r\n").toList

/-- The method and the target of a request, if its head has arrived. -/
def readRequest? (bytes : List UInt8) : Option (Option (String × String)) :=
  (head? bytes).map fun (lines, _) =>
    match lines.head?.map (Text.split ' ') with
    | some [method, target, _] => some (String.ofList method, String.ofList target)
    | _ => none

/-- The bytes of a response, after which the connection is closed. -/
def writeResponse (status : Nat) (contentType : String) (body : List UInt8) : List UInt8 :=
  Text.Utf8.encode
    ("HTTP/1.1 " ++ toString status ++ " \r\ncontent-type: " ++ contentType ++
      "\r\ncontent-length: " ++ toString body.length ++
      "\r\nconnection: close\r\n\r\n").toList ++ body

/-- The start of a response whose body comes in chunks. -/
def writeOpenResponse (status : Nat) : List UInt8 :=
  Text.Utf8.encode
    ("HTTP/1.1 " ++ toString status ++ " \r\ntransfer-encoding: chunked\r\n\r\n").toList

end QueueDrain.Http
