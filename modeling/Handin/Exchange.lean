import Handin.Relay
import Handin.Request

namespace Handin

/-- What is known of a request that got no reply. More than one may hold, as when time runs out
while connecting. -/
structure SendFault where
  isLate : Bool := false
  isUnsendable : Bool := false
  isUnconnected : Bool := false
  isUpload : Bool := false
  deriving DecidableEq, Repr

namespace SendFault

def timedOut : SendFault := { isLate := true }
def unsendable : SendFault := { isUnsendable := true }
def unreachable : SendFault := { isUnconnected := true }
def uploadBroken : SendFault := { isUpload := true }

def broken : SendFault := {}

end SendFault

inductive Exchange
  | failed (why : SendFault)
  | answered (status : Nat) (body : List Read)
  deriving DecidableEq, Repr

def isSuccess (status : Nat) : Bool := 200 ≤ status && status < 300

end Handin
