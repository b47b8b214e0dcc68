import Handin.Failure

namespace Handin

def isNameChar (c : Char) : Bool := c.isAlphanum || c == '_'

def isName (s : String) : Bool := !s.toList.isEmpty && s.toList.all isNameChar

structure Identifier where
  text : String
  isName_text : isName text = true
  deriving DecidableEq

def Identifier.parse (role raw : String) : Except Failure Identifier :=
  if h : isName raw = true then .ok ⟨raw, h⟩
  else .error (.usage ("Invalid " ++ role ++ ": " ++ raw))

end Handin
