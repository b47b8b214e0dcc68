import Handin.Config
import Handin.Identifier
import Handin.Submission
import Handin.Token
import Handin.Url.Segments

namespace Handin

structure Client where
  base : Url
  secret : String
  timeout : Nat
  deriving DecidableEq, Repr

namespace Client

def ofConfig (c : Config) : Except Failure Client :=
  match Url.parse c.baseText with
  | .error why => .error (.config ("bad service address " ++ c.baseText ++ ": " ++ why.message))
  | .ok url =>
    if url.isFlat then .error (.config ("bad service address " ++ url.text))
    else .ok ⟨url, c.secret, c.timeout⟩

def url (c : Client) (parts : List String) : Url := c.base.withSegments parts

def token (c : Client) (user : String) (day : Date) : String := Handin.token user day c.secret

def listingRequest (c : Client) (owner : String) (course assignment : Identifier) : Request :=
  { url := c.url [owner, course.text, assignment.text] }

def submission (c : Client) (owner user token : String) (course : Identifier)
    (assignment : Option Identifier) (files : Option (List String)) : Submission where
  url := c.url ([owner, user, token, course.text] ++ (assignment.map (·.text)).toList)
  upload := assignment.map fun _ => files.getD []

end Client

end Handin
