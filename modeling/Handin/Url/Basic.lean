import Handin.Url.Host

namespace Handin

structure Url.Authority where
  username : String := ""
  password : Option String := none
  host : Url.Host
  port : Option Nat := none
  deriving DecidableEq, Repr

inductive Url.Path
  | flat (text : String)
  /-- Segments, each of which a slash comes before. `guarded` puts `/.` in front, to tell the path
  from an authority. -/
  | segments (guarded : Bool) (list : List String)
  deriving DecidableEq, Repr

structure Url where
  scheme : String
  authority : Option Url.Authority
  path : Url.Path
  query : Option String := none
  fragment : Option String := none
  deriving DecidableEq, Repr

namespace Url

def isSpecialScheme (scheme : String) : Bool :=
  ["http", "https", "ws", "wss", "ftp", "file"].contains scheme

def defaultPort? (scheme : String) : Option Nat :=
  match scheme with
  | "http" => some 80
  | "ws" => some 80
  | "https" => some 443
  | "wss" => some 443
  | "ftp" => some 21
  | _ => none

def isSpecial (u : Url) : Bool := isSpecialScheme u.scheme

def isFlat (u : Url) : Bool :=
  match u.path with
  | .flat _ => true
  | .segments _ _ => false

def effectivePort? (u : Url) : Option Nat :=
  match u.authority with
  | some a => a.port.or (defaultPort? u.scheme)
  | none => none

def Authority.userText (a : Authority) : String :=
  match a.password with
  | some p => a.username ++ ":" ++ p ++ "@"
  | none => if a.username = "" then "" else a.username ++ "@"

def Authority.hostText (a : Authority) : String :=
  a.host.text ++ match a.port with
    | some p => ":" ++ String.ofList (Text.decimal p)
    | none => ""

def Authority.text (a : Authority) : String := a.userText ++ a.hostText

def segmentsText (list : List String) : String := String.join (list.map ("/" ++ ·))

def Path.text : Path → String
  | flat t => t
  | segments guarded list => (if guarded then "/." else "") ++ segmentsText list

def pathText (u : Url) : String :=
  match u.path with
  | .flat t => t
  | .segments _ list => segmentsText list

def authorityText (u : Url) : String :=
  match u.authority with
  | some a => "//" ++ a.text
  | none => ""

def rootText (u : Url) : String := u.scheme ++ ":" ++ u.authorityText

def optionalText (mark : String) : Option String → String
  | some t => mark ++ t
  | none => ""

def tailText (u : Url) : String := optionalText "?" u.query ++ optionalText "#" u.fragment

def text (u : Url) : String := u.rootText ++ u.path.text ++ u.tailText

def target (u : Url) : String := u.pathText ++ optionalText "?" u.query

end Url

end Handin
