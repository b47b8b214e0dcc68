import Handin.Url.Domain.Direction
import Handin.Url.Domain.Joining
import Handin.Url.Domain.Mapping
import Handin.Url.Punycode

/-! Domain names in ASCII form. -/

namespace Handin.Url.Domain

def encodedStart : List Char := ['x', 'n', '-', '-']

def isAscii (cs : List Char) : Bool := cs.all (·.toNat < 0x80)

def isForbidden (c : Char) : Bool :=
  c.toNat ≤ 0x20 || c.toNat == 0x7f
    || ['#', '%', '/', ':', '<', '>', '?', '@', '[', '\\', ']', '^', '|'].contains c

def isSettled (c : Char) : Bool := written? c == some [c]

def isProper (label : List Char) : Bool := !label.head?.any isMark && joinersFit [] label

/-- The characters that an encoded label stands for. They are not all ASCII, and are in the form
that any label is brought to. -/
def decoded? (label : List Char) : Option (List Char) := do
  let cs ← Punycode.decode? label
  if !isAscii label ∨ isAscii cs ∨ !cs.all isSettled ∨ composed cs ≠ cs then none else some cs

def characters? (label : List Char) : Option (List Char) :=
  if encodedStart.isPrefixOf label then decoded? (label.drop encodedStart.length)
  else some label

def encoded (label : List Char) : List Char :=
  if isAscii label then label else encodedStart ++ Punycode.encode label

def isSimple (name : List Char) : Bool :=
  isAscii name && !(((name.map Char.toLower).splitOn '.').any (encodedStart.isPrefixOf ·))

def transcribed? (name : List Char) : Option (List Char) := do
  let written ← name.mapM written?
  let labels := (composed written.flatten).splitOn '.'
  let shown ← labels.mapM characters?
  if !shown.all (fun l => isAscii l || isProper l) then none
  if hasDirection shown ∧ !shown.all keepsDirection then none
  let out := (labels.zip shown).map fun (l, cs) =>
    if encodedStart.isPrefixOf l then l else encoded cs
  return ['.'].intercalate out

def toAscii? (name : List Char) : Option (List Char) := do
  let ascii ← if isSimple name then some (name.map Char.toLower) else transcribed? name
  if ascii.any isForbidden then none else some ascii

end Handin.Url.Domain
