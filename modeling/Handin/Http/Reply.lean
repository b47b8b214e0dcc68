import Handin.Exchange
import Handin.Http.Body

namespace Handin.Http

structure Reply where
  head : Head
  body : List Read
  deriving DecidableEq, Repr

def Reply.ofWire (w : Wire) : Except SendFault Reply :=
  match Head.scan w.bytes with
  | .malformed => .error .broken
  | .unfinished =>
    match w.ending with
    | .closed => .error .broken
    | .stalled => .error .timedOut
  | .found head rest =>
    match Framing.ofHead? head with
    | none => .error .broken
    | some framing => .ok ⟨head, Body.reads framing ⟨rest, w.ending⟩⟩

end Handin.Http
