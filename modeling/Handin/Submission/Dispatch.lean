import Handin.Outcome
import Handin.Submission
import Handin.World

namespace Handin.Submission

variable {m : Type → Type} [Monad m]

def attach? (w : World m) (dir name : String) : m (Option Part) := do
  match ← w.look (Disk.join dir name) with
  | .file (.bytes b) => return some ⟨name, name, some b⟩
  | .file .unreadable => return some ⟨name, name, none⟩
  | .file .unopenable =>
    w.note .warn "cannot open file"
    return none
  | _ =>
    w.note .warn "file not found"
    return none

/-- Opens files in order, up to the first that cannot be opened. -/
def attachAll? (w : World m) (dir : String) : List String → m (Option (List Part))
  | [] => return some []
  | name :: rest => do
    match ← attach? w dir name with
    | none => return none
    | some part => return (← attachAll? w dir rest).map (part :: ·)

def request? (w : World m) (dir : String) (s : Submission) : m (Option Request) := do
  match s.upload with
  | none => return some { url := s.url }
  | some names => return (← attachAll? w dir names).map fun parts => ⟨s.url, some parts⟩

def relayNote : Relay.Outcome → Level × String
  | .total _ => (.debug, "reply relayed")
  | .readFailed f => (.warn, if f.isTimeout then "reply timed out" else "reply interrupted")
  | .writeFailed _ => (.warn, "cannot write reply")

def deliver (w : World m) (files : List String) (request : Request) (out : Sink) :
    m (Outcome × Sink) := do
  w.note .debug "dispatching"
  match ← w.send request with
  | .failed why =>
    w.note .warn "request failed"
    return (.ofSendFault files why, out)
  | .answered status body =>
    if !isSuccess status then w.note .warn "service returned an error status"
    let run := relay body out
    w.note (relayNote run.outcome).1 (relayNote run.outcome).2
    return (.ofRelay status run.outcome, run.sink)

def dispatch (w : World m) (s : Submission) (dir : String) (out : Sink) : m (Outcome × Sink) := do
  match ← request? w dir s with
  | none => return (.uploadFailed, out)
  | some request => deliver w s.files request out

end Handin.Submission
