import Handin.Invocation
import Handin.Options

/-! The whole command: the command line is read, the configuration loaded, the invocation run, and
a failure reported. -/

namespace Handin

structure Command where
  argv : List String
  around : Config.Surroundings
  accounts : Accounts
  day : Date
  folder : Option String

namespace Command

def failureStatus : Nat := 255

structure Ending where
  status : Nat
  output : Bytes
  complaint : String := ""
  deriving DecidableEq, Repr

inductive Stop
  | failure (f : Failure)
  | noFolder
  deriving DecidableEq, Repr

def Stop.message : Stop → String
  | failure f => f.message
  | noFolder =>
    "Failed to determine working directory: " ++ Disk.Trouble.notFound.message

def program (c : Command) : String := c.argv.head?.getD Options.programName

def invocation (o : Options) : Invocation := ⟨o.course, o.assignment, o.dryRun⟩

/-- The client for the configuration. The names on the command line are checked before anything
else is looked at. -/
def client (c : Command) (o : Options) : Except Failure Client := do
  let _ ← (invocation o).names
  Client.ofConfig (← Config.load o.config c.around)

/-- The files that are looked at for the configuration, if there are such files: none when the names
on the command line are refused. -/
def configFiles (c : Command) (o : Options) : List String :=
  match (invocation o).names with
  | .error _ => []
  | .ok _ => Config.candidates o.config c.around ++ (Config.secretPath? o.config c.around).toList

variable {m : Type → Type} [Monad m]

def execute (w : World m) (c : Command) (o : Options) : m (Except Stop Unit × Bytes) := do
  match c.client o, c.folder with
  | .error f, _ => return (.error (.failure f), [])
  | .ok _, none => return (.error .noFolder, [])
  | .ok client, some folder =>
    let (result, out) ← (invocation o).run w client c.accounts folder c.day {}
    return (result.mapError .failure, out.taken)

def run (w : World m) (c : Command) : m Ending := do
  match Options.parse c.argv.tail with
  | .error stop =>
    let message := stop.message (Options.usageName c.argv)
    return if stop.isAsked then ⟨0, Text.utf8 message, ""⟩ else ⟨failureStatus, [], message⟩
  | .ok o =>
    match ← execute w c o with
    | (.ok (), output) => return ⟨0, output, ""⟩
    | (.error stop, output) =>
      return ⟨failureStatus, output ++ Text.utf8 (reportLine c.program stop.message), ""⟩

end Command

end Handin
