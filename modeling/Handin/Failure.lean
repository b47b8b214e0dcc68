import Handin.Fault
import Handin.Text.Quoted

namespace Handin

inductive Failure
  | usage (text : String)
  | config (text : String)
  | discovery
  | unsafeName (name : String)
  | transportInit
  | upload (names : List String)
  | connectivity
  | output (kind : Fault.Kind)
  | timeout (seconds : Nat)
  deriving DecidableEq, Repr

namespace Failure

def message : Failure → String
  | usage text => text
  | config text => "Invalid configuration: " ++ text
  | discovery => "Unable to query file names"
  | unsafeName name => "Refusing unsafe file name from server: " ++ Text.quoted name
  | transportInit => "Unable to initialize client"
  | upload names => "Unable to upload file(s): " ++ " ".intercalate names
  | connectivity => "Unable to connect to server"
  | output _ => "Unable to write output"
  | timeout seconds =>
    "Unable to connect to server (timed out after " ++ String.ofList (Text.decimal seconds) ++ "s)"

def isConnectivity : Failure → Bool
  | connectivity => true
  | timeout _ => true
  | _ => false

end Failure

def reportLine (program message : String) : String := "[" ++ program ++ "] " ++ message ++ "\n"

def Failure.report (program : String) (f : Failure) : String := reportLine program f.message

end Handin
