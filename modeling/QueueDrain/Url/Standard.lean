import QueueDrain.Url.Readers
import QueueDrain.Url.Request

/-!
The readers of addresses that come with the program.

Design notes: they follow the rules that the libraries of the program keep to, with the data of
international domain names.  What is shown of the program does not rest on them, but on the rules
that it names; they only serve to run it, and to show that there are readers that keep to the rules.
-/

namespace QueueDrain.Url

/-- Readers that know web addresses, and addresses of requests. -/
def standard : Readers where
  scheme? s := (webScheme? s.toList).map String.ofList
  isTarget s := isRequestAddress s.toList

end QueueDrain.Url
