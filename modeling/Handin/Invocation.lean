import Handin.Client.Discovery
import Handin.Submission.Dispatch

namespace Handin

structure Invocation where
  course : Option String
  assignment : Option String
  dryRun : Bool := false
  deriving DecidableEq, Repr

/-- The accounts that take part: the one that owns the program and the one that runs it. -/
structure Accounts where
  owner : Except Failure String
  user : Except Failure String

namespace Invocation

def names (i : Invocation) : Except Failure (Identifier × Option Identifier) := do
  let course ← match i.course with
    | some raw => Identifier.parse "course" raw
    | none => throw (.usage "Course number required")
  let assignment ← i.assignment.mapM (Identifier.parse "assignment")
  return (course, assignment)

variable {m : Type → Type} [Monad m]

def expectedFiles (w : World m) (c : Client) (owner : String) (course : Identifier) :
    Option Identifier → m (Except Failure (Option (List String)))
  | none => return .ok none
  | some assignment => do
    match ← c.discover w owner course assignment with
    | none => return .error .discovery
    | some names =>
      match names.find? (!Listing.isPlain ·) with
      | some bad => return .error (.unsafeName bad)
      | none => return .ok (some names)

/-- Composes the request: the account of the user is asked for last. -/
def compose (w : World m) (c : Client) (accounts : Accounts) (i : Invocation) (day : Date) :
    m (Except Failure Submission) := do
  match i.names, accounts.owner with
  | .error f, _ => return .error f
  | .ok _, .error f => return .error f
  | .ok (course, assignment), .ok owner =>
    w.note .debug "validated"
    match ← expectedFiles w c owner course assignment with
    | .error f => return .error f
    | .ok files =>
      return accounts.user.map fun user =>
        c.submission owner user (c.token user day) course assignment files

def print (s : Submission) (out : Sink) : Except Failure Unit × Sink :=
  match out.writeAll (Text.utf8 (s.describe ++ "\n")) with
  | (.ok (), out) => (.ok (), out)
  | (.error kind, out) => (.error (.output kind), out)

def submit (w : World m) (c : Client) (s : Submission) (dir : String) (out : Sink) :
    m (Except Failure Unit × Sink) := do
  w.note .info "sending request"
  let (outcome, out) ← s.dispatch w dir out
  return (outcome.result s.files c.timeout, out)

def run (w : World m) (c : Client) (accounts : Accounts) (i : Invocation) (dir : String)
    (day : Date) (out : Sink) : m (Except Failure Unit × Sink) := do
  match ← i.compose w c accounts day with
  | .error f => return (.error f, out)
  | .ok s => if i.dryRun then return print s out else submit w c s dir out

end Invocation

end Handin
