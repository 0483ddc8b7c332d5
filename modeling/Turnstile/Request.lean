import Turnstile.Net.SocketAddr

/-!
# Inbound requests

The parts of an HTTP request the service looks at: the path, the headers in
the order received, and the peer address if known. A header is found by the
first name that equals the wanted one ignoring ASCII case. The client IP is
the address of the peer written canonically when the peer address is a
socket address, and the peer address as given otherwise.
-/

namespace Turnstile

/-- What the service sees of a request. -/
structure Request where
  path : String := ""
  headers : List (String × String) := []
  peer : Option String := none

/-- Equality ignoring ASCII case. -/
def sameIgnoringAsciiCase (a b : String) : Bool :=
  a.length = b.length ∧ (a.toList.zip b.toList).all fun (x, y) => x.toLower = y.toLower

namespace Request

/-- The value of the first header with the name, ignoring ASCII case. -/
def header? (r : Request) (name : String) : Option String :=
  (r.headers.find? fun (k, _) => sameIgnoringAsciiCase k name).map (·.2)

/-- The client IP, if the peer is known. -/
def clientIp (r : Request) : Option String :=
  r.peer.map fun a =>
    match Net.socketIp a with
    | some ip => ip.text
    | none => a

end Request

end Turnstile
