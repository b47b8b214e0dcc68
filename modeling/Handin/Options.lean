import Handin.Options.Likeness
import Handin.Text.Plain

namespace Handin

structure Options where
  course : Option String := none
  assignment : Option String := none
  config : Option String := none
  dryRun : Bool := false
  verbose : Nat := 0
  deriving DecidableEq, Repr

namespace Options

inductive Flag
  | config
  | dryRun
  | verbose
  | help
  | version
  deriving DecidableEq, Repr

namespace Flag

def all : List Flag := [config, dryRun, verbose, help, version]

def long : Flag → String
  | config => "config"
  | dryRun => "dry-run"
  | verbose => "verbose"
  | help => "help"
  | version => "version"

def shown : Flag → String
  | config => "--config <CONFIG>"
  | verbose => "--verbose..."
  | f => "--" ++ f.long

def ofLong? (name : String) : Option Flag := all.find? (·.long == name)

/-- The flag whose name is most like the given one, of equals the last; none unless more than 0.7
alike. -/
def alike? (name : String) : Option Flag :=
  let best := all.foldl (fun (best : Option (Flag × Float)) f =>
      let l := likeness name.toList f.long.toList
      if 0.7 < l && (best.all fun (_, b) => b ≤ l) then some (f, l) else best) none
  best.map (·.1)

end Flag

inductive Tip
  | none
  | asValue
  | similar (flag : Flag)
  deriving DecidableEq, Repr

inductive Stop
  | help
  | version
  | noValue
  | repeated (flag : Flag)
  | unwantedValue (value : String) (flag : Flag) (used : List Flag)
  | unknown (arg : String) (tip : Tip) (used : Option (List Flag))
  deriving DecidableEq, Repr

inductive Pending
  | nothing
  | waiting
  | value (v : String)
  deriving DecidableEq, Repr

structure Reading where
  options : Options := {}
  used : List Flag := []
  pending : Pending := .nothing
  deriving DecidableEq, Repr

namespace Reading

/-- Takes in a value for `--config`. The second part tells why it is refused; what the first part
shows as used then counts all the same. -/
def config (r : Reading) (v : String) : Reading × Option Stop :=
  if .config ∈ r.used then ({ r with used := r.used.erase .config }, some (.repeated .config))
  else
    let r := { r with used := r.used ++ [.config] }
    if v = "" then (r, some .noValue)
    else ({ r with options := { r.options with config := some v } }, none)

def settle (r : Reading) : Reading × Option Stop :=
  match r.pending with
  | .nothing => (r, none)
  | .waiting => ({ r with pending := .nothing }, some .noValue)
  | .value v => config { r with pending := .nothing } v

def settled (r : Reading) : Except Stop Reading :=
  match r.settle with
  | (r, none) => .ok r
  | (_, some stop) => .error stop

def setConfig (r : Reading) (v : String) : Except Stop Reading := do
  match (← r.settled).config v with
  | (r, none) => return r
  | (_, some stop) => throw stop

def maxVerbose : Nat := 255

def flag (r : Reading) (f : Flag) : Except Stop Reading := do
  let r ← r.settled
  match f with
  | .config => return { r with pending := .waiting }
  | .help => throw .help
  | .version => throw .version
  | .dryRun =>
    if .dryRun ∈ r.used then throw (.repeated .dryRun)
    else return { r with used := r.used ++ [.dryRun], options := { r.options with dryRun := true } }
  | .verbose =>
    return { r with
      used := r.used.erase .verbose ++ [.verbose]
      options := { r.options with verbose := min (r.options.verbose + 1) maxVerbose } }

def place (r : Reading) (arg : String) : Except Stop Reading := do
  match r.options.course, r.options.assignment with
  | none, _ =>
    let r ← r.settled
    return { r with options := { r.options with course := some arg } }
  | some _, none =>
    let r ← r.settled
    return { r with options := { r.options with assignment := some arg } }
  | some _, some _ => throw (.unknown arg .none none)

def cluster (r : Reading) : List Char → Except Stop Reading
  | [] => .ok r
  | 'v' :: rest => do cluster (← r.flag .verbose) rest
  | 'h' :: _ => r.flag .help
  | 'V' :: _ => r.flag .version
  | ['c'] => r.flag .config
  | 'c' :: '=' :: v => r.setConfig (String.ofList v)
  | 'c' :: v => r.setConfig (String.ofList v)
  | c :: _ => .error (.unknown (String.ofList ['-', c]) .asValue none)

def unknownLong (r : Reading) (name : String) : Stop :=
  let (r, _) := r.settle
  match Flag.alike? name with
  | some f =>
    .unknown ("--" ++ name) (.similar f) (some (if f ∈ r.used then r.used else r.used ++ [f]))
  | none =>
    .unknown ("--" ++ name) .asValue
      (if r.used.isEmpty && r.options.course.isNone then none else some r.used)

def long (r : Reading) (cs : List Char) : Except Stop Reading :=
  let name := String.ofList (cs.takeWhile (· != '='))
  match Flag.ofLong? name, cs.dropWhile (· != '=') with
  | none, _ => .error (r.unknownLong name)
  | some f, [] => r.flag f
  | some .config, _ :: v => r.setConfig (String.ofList v)
  | some f, _ :: v => .error (.unwantedValue (String.ofList v) f (r.used ++ [f]).eraseDups)

def argument (r : Reading) (arg : String) : Except Stop Reading :=
  match arg.toList with
  | '-' :: '-' :: cs => r.long cs
  | '-' :: c :: cs => r.cluster (c :: cs)
  | _ =>
    match r.pending with
    | .waiting => .ok { r with pending := .value arg }
    | _ => r.place arg

/-- Takes in arguments; after `--` they count by place only. -/
def arguments (r : Reading) : List String → Except Stop Reading
  | [] => r.settled
  | arg :: rest => do
    if arg = "--" then (← rest.foldlM place r).settled
    else arguments (← r.argument arg) rest

end Reading

def parse (args : List String) : Except Stop Options := do
  return (← ({} : Reading).arguments args).options

def programName : String := "casey"

def fileName? (path : String) : Option String :=
  let names := (path.toList.splitOn '/').filter fun n => n != [] && n != ['.']
  match names.getLast? with
  | some ['.', '.'] => none
  | some n => some (String.ofList n)
  | none => none

def usageName (argv : List String) : String :=
  (argv.head?.bind fileName?).getD programName

def usage (name : String) (used : Option (List Flag)) : String :=
  let flags := match used with
    | none => " [OPTIONS]"
    | some fs => String.join (fs.map fun f => " " ++ f.shown)
  "Usage: " ++ name ++ flags ++ " [COURSE] [ASSIGNMENT]"

def helpText (name : String) : String :=
  "Submit coursework and check scores\n\n" ++ usage name none ++ "\n
Arguments:
  [COURSE]      Course identifier (letters, digits and `_`)
  [ASSIGNMENT]  Assignment to submit; omit to list scores for the course

Options:
  -c, --config <CONFIG>  Configuration file (defaults to $CASEY_CONFIG or ~/.casey/config.toml)
      --dry-run          Print the request that would be sent instead of sending it
  -v, --verbose...       Verbosity level (-v, -vv, -vvv); logs go to stderr
  -h, --help             Print help
  -V, --version          Print version
"

def versionText : String := programName ++ " 0.1.0\n"

namespace Stop

def isAsked : Stop → Bool
  | help => true
  | version => true
  | _ => false

def error (paragraphs : List String) : String :=
  "\n\n".intercalate (paragraphs ++ ["For more information, try '--help'.\n"])

def fullText (name : String) : Stop → String
  | help => helpText name
  | version => versionText
  | noValue =>
    error ["error: a value is required for '" ++ Flag.config.shown ++ "' but none was supplied"]
  | repeated flag =>
    error ["error: the argument '" ++ flag.shown ++ "' cannot be used multiple times",
      usage name none]
  | unwantedValue value flag used =>
    error ["error: unexpected value '" ++ value ++ "' for '" ++ flag.shown
        ++ "' found; no more were expected",
      usage name (some used)]
  | unknown arg tip used =>
    error (["error: unexpected argument '" ++ arg ++ "' found"]
      ++ (match tip with
        | .none => []
        | .asValue => ["  tip: to pass '" ++ arg ++ "' as a value, use '-- " ++ arg ++ "'"]
        | .similar f => ["  tip: a similar argument exists: '--" ++ f.long ++ "'"])
      ++ [usage name used])

def message (name : String) (s : Stop) : String :=
  String.ofList (Text.plain .none (s.fullText name).toList)

end Stop

end Options

end Handin
