import Handin.Toml.Document

namespace Handin

structure Settings where
  scheme : Option String := none
  host : Option String := none
  port : Option Nat := none
  secret : Option String := none
  secretFile : Option String := none
  timeoutSecs : Option Nat := none
  deriving DecidableEq, Repr

namespace Settings

def maxPort : Nat := 65535
def maxSecs : Nat := 18446744073709551615

inductive Complaint
  | malformed
  | unknownKey (key : String)
  | wrongType (found : Toml.Value) (expected : String)
  | wrongValue (found : Int) (expected : String)

def textOf (expected : String) : Toml.Value → Except Complaint String
  | .string s => .ok s
  | v => .error (.wrongType v expected)

def natOf (expected : String) (bound : Nat) : Toml.Value → Except Complaint Nat
  | .integer i => if 0 ≤ i ∧ i ≤ bound then .ok i.toNat else .error (.wrongValue i expected)
  | v => .error (.wrongType v expected)

def withKey (s : Settings) (key : String) (v : Toml.Value) : Except Complaint Settings := do
  match key with
  | "scheme" => return { s with scheme := some (← textOf "a string" v) }
  | "host" => return { s with host := some (← textOf "a string" v) }
  | "port" => return { s with port := some (← natOf "u16" maxPort v) }
  | "secret" => return { s with secret := some (← textOf "a string" v) }
  | "secret_file" => return { s with secretFile := some (← textOf "path string" v) }
  | "timeout_secs" => return { s with timeoutSecs := some (← natOf "u64" maxSecs v) }
  | _ => throw (.unknownKey key)

/-- The settings of a file; of two complaints the one about the earlier key is made. -/
def ofToml (text : String) : Except Complaint Settings :=
  match Toml.parse? text with
  | none => .error .malformed
  | some es => es.foldlM (fun s (key, v) => s.withKey key v) {}

end Settings

end Handin
