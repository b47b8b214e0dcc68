import Handin.Http.Message
import Handin.Http.Reply
import Handin.Url.Parser

namespace Handin.Http

namespace Message

/-- The form that is sent after a redirect, if the message can be sent again at all. A form is not
sent twice: some redirects drop it, and the others are not followed. -/
def resent? (m : Message) (status : Nat) : Option (Option (List Part)) :=
  match status with
  | 301 => some none
  | 302 => some none
  | 303 => some none
  | 307 => if m.form = none then some none else none
  | 308 => if m.form = none then some none else none
  | _ => none

def location? (m : Message) (h : Head) : Option Url := do
  let value ← (h.values "location").head?
  let text ← Text.ofUtf8? value
  let url ← (m.url.resolve text).toOption
  if url.isCarried then some url else none

/-- The address that a message which was redirected says it came from. It is not told when leaving
a protected service for another. -/
def refererTo (m : Message) (next : Url) : Option String :=
  if m.url.scheme = "https" ∧ next.scheme = "http" then m.referer
  else some { stripped m.url with fragment := none }.text

def isSamePlace (a b : Url) : Bool :=
  (a.authority.map (·.host)) == (b.authority.map (·.host)) && a.effectivePort? == b.effectivePort?

def redirected? (m : Message) (h : Head) : Option Message := do
  let form ← m.resent? h.status
  let url ← m.location? h
  return { url, form
           authorization := if isSamePlace m.url url then m.authorization else none
           referer := m.refererTo url }

end Message

end Handin.Http
