import Handin.Url.Basic

namespace Handin

structure Part where
  field : String
  file : String
  content : Option Bytes
  deriving DecidableEq, Repr

/-- A request that carries a form posts it; one without a form asks for what the URL names. -/
structure Request where
  url : Url
  form : Option (List Part) := none
  deriving DecidableEq, Repr

def methodName (posts : Bool) : String := if posts then "POST" else "GET"

end Handin
