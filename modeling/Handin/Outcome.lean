import Handin.Exchange
import Handin.Failure

namespace Handin

inductive Outcome
  | completed
  | initFailed
  | uploadFailed
  | unreachable
  | timedOut
  | outputFailed (kind : Fault.Kind)
  deriving DecidableEq, Repr

namespace Outcome

def ofSendFault (files : List String) (why : SendFault) : Outcome :=
  if why.isLate then timedOut
  else if why.isUnsendable then initFailed
  else if why.isUnconnected then unreachable
  else if why.isUpload && !files.isEmpty then uploadFailed
  else unreachable

def ofRelay (status : Nat) : Relay.Outcome → Outcome
  | .total _ => if isSuccess status then completed else unreachable
  | .readFailed f => if f.isTimeout then timedOut else unreachable
  | .writeFailed kind => outputFailed kind

/-- What the invocation makes of the outcome: success, or the failure it reports. The time allowed
is in milliseconds. -/
def result (files : List String) (timeout : Nat) : Outcome → Except Failure Unit
  | completed => .ok ()
  | initFailed => .error .transportInit
  | uploadFailed => .error (.upload files)
  | unreachable => .error .connectivity
  | timedOut => .error (.timeout (timeout / 1000))
  | outputFailed kind => .error (.output kind)

end Outcome

end Handin
