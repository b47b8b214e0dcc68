import Handin.Url.Basic

namespace Handin.Http

structure Seen where
  colons : Nat := 0
  opened : Bool := false
  closed : Bool := false
  percent : Bool := false
  atEnd : Bool := false

def isAuthorityChar (c : Char) : Bool := c.isAlphanum || "!$&'()*+,-.;=_~".toList.contains c

/-- Takes in one more character. Colons and percent signs do not count if they turn out to be of
the user's name or between brackets. -/
def Seen.take? (s : Seen) (c : Char) : Option Seen :=
  match c with
  | ':' => if 8 ≤ s.colons then none else some { s with colons := s.colons + 1, atEnd := false }
  | '[' => if s.percent || s.opened then none else some { s with opened := true, atEnd := false }
  | ']' =>
    if !s.opened || s.closed then none
    else some { s with closed := true, colons := 0, percent := false, atEnd := false }
  | '@' => some { s with colons := 0, percent := false, atEnd := true }
  | '%' => some { s with percent := true, atEnd := false }
  | c => if isAuthorityChar c then some { s with atEnd := false } else none

/-- An authority has paired brackets, at most one colon outside them, no percent sign in its host
and something after its last `@`. -/
def isAuthority (cs : List Char) : Bool :=
  match cs.foldlM Seen.take? {} with
  | none => false
  | some s => s.opened == s.closed && s.colons ≤ 1 && !s.atEnd && !s.percent

def endsAuthority (c : Char) : Bool := c == '/' || c == '?' || c == '#'

def isSchemeChar (c : Char) : Bool := c.isAlphanum || c == '+' || c == '-' || c == '.'

def maxLength : Nat := 65534
def maxScheme : Nat := 64

def isAddress (text : List Char) : Bool :=
  text.length ≤ maxLength &&
    match text.dropWhile isSchemeChar with
    | ':' :: '/' :: '/' :: rest =>
      let authority := rest.takeWhile (!endsAuthority ·)
      (text.takeWhile isSchemeChar).length ≤ maxScheme && !authority.isEmpty &&
        isAuthority authority
    | _ => !text.any endsAuthority && isAuthority text

end Handin.Http

namespace Handin.Url

def isCarried (u : Url) : Bool := Http.isAddress u.text.toList

def isWeb (u : Url) : Bool := u.scheme == "http" || u.scheme == "https"

end Handin.Url
