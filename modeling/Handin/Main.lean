import Handin.Command
import Handin.Http.Outgoing
import Handin.Http.Send
import Std.Async.DNS
import Std.Async.System
import Std.Async.TCP
import Std.Async.Timer
import Std.Time

namespace Handin.Main

open Std.Async

def trouble (e : IO.Error) : Disk.Trouble :=
  match e with
  | .permissionDenied .. => .denied
  | .inappropriateType .. => .notFolder
  | .noFileOrDirectory .. => .notFound
  | _ => .unreadable

def contentOf (handle : IO.FS.Handle) : IO Disk.Content := do
  try
    return .bytes (← handle.readBinToEnd).data.toList
  catch _ => return .unreadable

def content (path : String) : IO Disk.Content := do
  try
    contentOf (← IO.FS.Handle.mk path .read)
  catch _ => return .unopenable

def look (path : String) : IO Disk.Found := do
  try
    match (← (← IO.FS.realPath path).metadata).type with
    | .dir => return .folder
    | .file => return .file (← content path)
    | _ => return .absent .notFound
  catch e => return .absent (trouble e)

def snapshot (paths : List String) : IO Disk := do
  let found ← paths.mapM fun p => return (p, ← look p)
  return ⟨fun path => (found.lookup path).getD (.absent .notFound)⟩

def boundary : IO String := do
  let numbers ← (List.range 4).mapM fun _ => IO.rand 0x10000000 0xffffffff
  return "-".intercalate (numbers.map fun n => String.ofList (Text.numeral 16 n))

partial def receive (socket : TCP.Socket.Client) (deadline : Nat) (got : Array UInt8) :
    Async Http.Wire := do
  let left := deadline - (← IO.monoMsNow)
  let more ← Selectable.one #[
    .case (socket.recvSelector 8192) fun data => return some data,
    .case (← Selector.sleep (.ofNat left)) fun _ => return none]
  match more with
  | some (some data) => receive socket deadline (got ++ data.data)
  | some none => return ⟨got.toList, .closed⟩
  | none => return ⟨got.toList, .stalled⟩

def connect? (host : String) (port : Nat) : IO (Option TCP.Socket.Client) := do
  try
    let addresses ← (DNS.getAddrInfo host (toString port)).block
    let some address := addresses[0]? | return none
    let place : Std.Net.SocketAddress := match address with
      | .v4 a => .v4 ⟨a, port.toUInt16⟩
      | .v6 a => .v6 ⟨a, port.toUInt16⟩
    let socket ← TCP.Socket.Client.mk
    (socket.connect place).block
    return some socket
  catch _ => return none

def talk (socket : TCP.Socket.Client) (timeout : Nat) (out : Bytes) :
    IO (Except SendFault Http.Wire) := do
  try
    let deadline := (← IO.monoMsNow) + timeout
    (socket.send ⟨out.toArray⟩).block
    return .ok (← (receive socket deadline #[]).block)
  catch _ => return .error .broken

def call (timeout : Nat) (m : Http.Message) : IO (Except SendFault Http.Wire) := do
  match m.bytes? (← boundary), m.url.authority, m.url.effectivePort? with
  | some out, some authority, some port =>
    if m.url.scheme != "http" then return .error .unreachable
    let host := match authority.host with
      | .ipv6 groups => String.ofList (Url.Ipv6.text groups)
      | host => host.text
    match ← connect? host port with
    | some socket => talk socket timeout out
    | none => return .error .unreachable
  | none, _, _ => return .error .uploadBroken
  | _, _, _ => return .error .unreachable

def isShown (verbose : Nat) : Level → Bool
  | .warn => true
  | .info => 1 ≤ verbose
  | .debug => 2 ≤ verbose

def world (verbose timeout : Nat) : World IO where
  look := look
  send r := Http.send (call timeout) r
  note level text := do
    if isShown verbose level then IO.eprintln (level.name ++ " " ++ text)

/-- The accounts. Who owns a file cannot be read; a program in the user's own folder is taken to be
the user's. -/
def accounts : IO Accounts := do
  let user ← try
      pure (some (← System.getCurrentUser))
    catch _ => pure none
  let app := toString (← IO.appPath)
  let home := (user.bind (·.homeDir)).elim "" toString
  let failed (text : String) : Except Failure String := .error (.config text)
  let name := user.elim (failed "no account for this user") fun u => .ok u.username
  return {
    user := name
    owner := if home != "" && (home ++ "/").toList.isPrefixOf app.toList then name
      else failed ("cannot tell who owns " ++ app) }

def today : IO Date := do
  let now ← Std.Time.PlainDate.now
  match Date.of? now.year.toInt now.month.toNat now.day.toNat with
  | some d => return d
  | none => throw (IO.userError "the clock shows no date")

def calledAs : IO String := do
  try
    let line ← IO.FS.readBinFile "/proc/self/cmdline"
    return (Text.ofUtf8? (line.data.toList.takeWhile (· != 0))).getD Options.programName
  catch _ => return Options.programName

def folder? : IO (Option String) := do
  try
    return some (toString (← IO.currentDir))
  catch _ => return none

def environment : IO (String → Option String) := do
  let names := ["CASEY_CONFIG", "CASEY_SCHEME", "CASEY_HOST", "CASEY_PORT", "CASEY_SECRET",
    "CASEY_SECRET_FILE", "CASEY_TIMEOUT_SECS"]
  let values ← names.mapM fun n => return (n, ← IO.getEnv n)
  return fun n => (values.lookup n).join

def wording (_ : String) : Settings.Complaint → String
  | .malformed => "not a TOML document"
  | .unknownKey key => "unknown field " ++ Text.quoted key
  | .wrongType _ expected => "invalid type, expected " ++ expected
  | .wrongValue _ expected => "invalid value, expected " ++ expected

def command (args : List String) (o : Options) : IO Command := do
  let bare : Command := {
    argv := (← calledAs) :: args
    around := ⟨← environment, ← snapshot [], ← IO.getEnv "HOME", wording⟩
    accounts := ← accounts
    day := ← today
    folder := ← folder? }
  -- only once the settings are read is it known where the secret is
  let settled := { bare with around.disk := ← snapshot (bare.configFiles o) }
  return { settled with around.disk := ← snapshot (settled.configFiles o) }

def run (args : List String) : IO Command.Ending := do
  let o := (Options.parse args).toOption.getD {}
  let c ← command args o
  let timeout := (c.client o).toOption.elim 0 (·.timeout)
  c.run (world o.verbose timeout)

end Handin.Main

open Handin in
def main (args : List String) : IO UInt32 := do
  try
    let ending ← Main.run args
    IO.eprint ending.complaint
    let output ← IO.getStdout
    output.write ⟨ending.output.toArray⟩
    output.flush
    return ending.status.toUInt32
  catch e =>
    IO.eprintln (toString e)
    return Command.failureStatus.toUInt32
