import QueueDrain.Http.Basic
import QueueDrain.Lab.Service

/-!
A lab on a network: every request that goes to its address is answered without delay.
-/

namespace QueueDrain.Lab

/-- What a client sees of a response. -/
def Response.transfer (response : Response) : Http.Transfer :=
  match response.body with
  | .text s => .complete 0 ⟨response.status, Text.Utf8.encode s.toList⟩
  | .json fields => .complete 0 ⟨response.status, Text.Utf8.encode fields.text.toList⟩
  | .stalled => .endless

/-- The rest of a text that starts with another one. -/
def dropStart? : (start s : List Char) → Option (List Char)
  | [], s => some s
  | _ :: _, [] => none
  | a :: start, c :: s => if a = c then dropStart? start s else none

/-- The network on which a lab with a base address is all that can be reached. -/
def network (options : Options) (baseUrl : String) : Http.Network Lab := fun request time lab =>
  match dropStart? baseUrl.toList request.url.toList with
  | none => (.unanswered 0, lab)
  | some target =>
    let (response, lab) := lab.respond options time request.method.name (String.ofList target)
    (response.transfer, lab)

end QueueDrain.Lab
