import Handin.Http.Address
import Handin.Request
import Handin.Text.Base64

namespace Handin.Http

structure Message where
  url : Url
  form : Option (List Part) := none
  authorization : Option String := none
  referer : Option String := none
  deriving DecidableEq, Repr

namespace Message

def method (m : Message) : String := methodName m.form.isSome

def decoded? (s : String) : Option String := Text.ofUtf8? (Url.percentDecode s.toList)

def credentials? (u : Url) : Option (String × Option String) := do
  let a ← u.authority
  let name ← decoded? a.username
  let password := a.password.bind decoded?
  if name = "" ∧ password = none then none else some (name, password)

def basic (name : String) (password : Option String) : String :=
  "Basic " ++ String.ofList (Text.Base64.encode (Text.utf8 (name ++ ":" ++ password.getD "")))

def stripped (u : Url) : Url :=
  { u with authority := u.authority.map fun a => { a with username := "", password := none } }

def ofRequest (r : Request) : Message :=
  match credentials? r.url with
  | some (name, password) =>
    { url := stripped r.url, form := r.form, authorization := some (basic name password) }
  | none => { url := r.url, form := r.form }

end Message

end Handin.Http
