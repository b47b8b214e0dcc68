import Handin.Config.Settings
import Handin.Disk
import Handin.Failure

/-! The configuration: where the service is, the shared secret and the time allowed. It is made of
the built-in values, then a file, then the variables. -/

namespace Handin

structure Config where
  scheme : String
  host : String
  port : Nat
  secret : String
  timeout : Nat
  deriving DecidableEq, Repr

namespace Config

def defaultScheme : String := "http"
def defaultHost : String := "localhost"
def defaultPort : Nat := 5005
def defaultSecs : Nat := 300

inductive Fault
  | unreadable (path : String) (why : Disk.Trouble)
  | unparsable (path text : String)
  | badPortVariable (value : String)
  | badSecsVariable (value : String)
  | secretUnreadable (path : String) (why : Disk.Trouble)
  | noSecret
  | emptySecret
  | emptyHost
  | badPort (host : String)
  | twoPorts (host : String) (named given : Nat)
  | noTime

def Fault.message : Fault → String
  | unreadable path why => "cannot read " ++ path ++ ": " ++ why.message
  | unparsable path text => "cannot parse " ++ path ++ ": " ++ text
  | badPortVariable value => "CASEY_PORT is not a port number: " ++ value
  | badSecsVariable value => "CASEY_TIMEOUT_SECS is not a number: " ++ value
  | secretUnreadable path why => "cannot read secret file " ++ path ++ ": " ++ why.message
  | noSecret => "no shared secret (set CASEY_SECRET or `secret` in the config file)"
  | emptySecret => "shared secret is empty"
  | emptyHost => "host is empty"
  | badPort host => "host " ++ host ++ " has a bad port"
  | twoPorts host named given =>
    "host " ++ host ++ " names port " ++ String.ofList (Text.decimal named)
      ++ " but port is set to " ++ String.ofList (Text.decimal given)
  | noTime => "timeout must be at least one second"

/-- What loading looks at besides its argument. `wording` renders a complaint about the text of a
file, from which it may quote. -/
structure Surroundings where
  env : String → Option String
  disk : Disk
  home : Option String
  wording : String → Settings.Complaint → String

def overlay (env : String → Option String) (s : Settings) : Except Fault Settings := do
  let port ← match env "CASEY_PORT" with
    | none => pure s.port
    | some v =>
      match Text.unsigned? Settings.maxPort v.toList with
      | some n => pure (some n)
      | none => throw (.badPortVariable v)
  let secs ← match env "CASEY_TIMEOUT_SECS" with
    | none => pure s.timeoutSecs
    | some v =>
      match Text.unsigned? Settings.maxSecs v.toList with
      | some n => pure (some n)
      | none => throw (.badSecsVariable v)
  return {
    scheme := (env "CASEY_SCHEME").or s.scheme
    host := (env "CASEY_HOST").or s.host
    port := port
    secret := (env "CASEY_SECRET").or s.secret
    secretFile := (env "CASEY_SECRET_FILE").or s.secretFile
    timeoutSecs := secs }

def splitScheme? : List Char → Option (List Char × List Char)
  | [] => none
  | ':' :: '/' :: '/' :: rest => some ([], rest)
  | c :: rest => (splitScheme? rest).map fun (scheme, more) => (c :: scheme, more)

def trimSlashes (cs : List Char) : List Char := (cs.reverse.dropWhile (· == '/')).reverse

def splitLast? (mark : Char) (cs : List Char) : Option (List Char × List Char) :=
  let after := cs.reverse.takeWhile (· != mark)
  match cs.reverse.dropWhile (· != mark) with
  | [] => none
  | _ :: before => some (before.reverse, after.reverse)

def isBracketed (cs : List Char) : Bool := cs.head? == some '[' && cs.getLast? == some ']'

/-- The name and the port in `name:port`. A name with colons of its own has a port only if it is in
brackets. -/
def splitPort (host : List Char) : Except Fault (Option (List Char × Nat)) :=
  match splitLast? ':' host with
  | none => .ok none
  | some (name, port) =>
    if name.contains ':' && !isBracketed name then .ok none
    else
      match Text.unsigned? Settings.maxPort port with
      | some n => .ok (some (name, n))
      | none => .error (.badPort (String.ofList host))

def secretOf (text : String) : String :=
  String.ofList (Text.trim (Text.firstLine text.toList))

def readSecret (disk : Disk) (path : String) : Except Fault String :=
  match disk.readText path with
  | .ok text => .ok (secretOf text)
  | .error why => .error (.secretUnreadable path why)

def address (s : Settings) : List Char × List Char :=
  let host := (s.host.getD defaultHost).toList
  match splitScheme? host with
  | some (scheme, rest) => (scheme, trimSlashes rest)
  | none => ((s.scheme.getD defaultScheme).toList, host)

def hostPort (s : Settings) (host : List Char) : Except Fault (List Char × Nat) := do
  match ← splitPort host with
  | none => return (host, s.port.getD defaultPort)
  | some (name, named) =>
    match s.port with
    | some given =>
      if given ≠ named then throw (.twoPorts (String.ofList host) named given)
      else return (name, named)
    | none => return (name, named)

/-- Settles the settings of all layers. A secret set directly wins over one in a file. -/
def resolve (disk : Disk) (s : Settings) : Except Fault Config := do
  let secret ← match s.secret, s.secretFile with
    | some secret, _ => pure secret
    | none, some path => readSecret disk path
    | none, none => throw .noSecret
  if secret = "" then throw .emptySecret
  let (scheme, host) := address s
  if host = [] then throw .emptyHost
  let (host, port) ← hostPort s host
  let secs := s.timeoutSecs.getD defaultSecs
  if secs = 0 then throw .noTime
  return ⟨String.ofList scheme, String.ofList host, port, secret, secs * 1000⟩

def readSettings (around : Surroundings) (path : String) : Except Fault Settings :=
  match around.disk.readText path with
  | .error why => .error (.unreadable path why)
  | .ok text =>
    (Settings.ofToml text).mapError fun complaint =>
      .unparsable path (around.wording text complaint)

def defaultPath (home : String) : String := Disk.join (Disk.join home ".casey") "config.toml"

/-- The file to read: one named by the argument or else by a variable must exist, the default one
need not. -/
def path? (explicit : Option String) (around : Surroundings) : Option String :=
  match explicit, around.env "CASEY_CONFIG" with
  | some path, _ => some path
  | none, some path => some path
  | none, none => (around.home.map defaultPath).filter around.disk.isFile

def settings? (explicit : Option String) (around : Surroundings) : Except Fault Settings := do
  let settings ← match path? explicit around with
    | some path => readSettings around path
    | none => pure {}
  overlay around.env settings

def load? (explicit : Option String) (around : Surroundings) : Except Fault Config := do
  resolve around.disk (← settings? explicit around)

def load (explicit : Option String) (around : Surroundings) : Except Failure Config :=
  (load? explicit around).mapError fun f => .config f.message

def candidates (explicit : Option String) (around : Surroundings) : List String :=
  explicit.toList ++ (around.env "CASEY_CONFIG").toList ++ (around.home.map defaultPath).toList

def secretPath? (explicit : Option String) (around : Surroundings) : Option String :=
  (settings? explicit around).toOption.bind (·.secretFile)

def baseText (c : Config) : String :=
  c.scheme ++ "://" ++ c.host ++ ":" ++ String.ofList (Text.decimal c.port)

def describe (c : Config) : String :=
  "Config \x7b scheme: " ++ Text.quoted c.scheme ++ ", host: " ++ Text.quoted c.host ++ ", port: "
    ++ String.ofList (Text.decimal c.port) ++ ", secret: \"<redacted>\", timeout: "
    ++ String.ofList (Text.decimal (c.timeout / 1000)) ++ "s \x7d"

end Config

end Handin
