import Handin.Url.Parser

/-! URLs whose path is set segment by segment. -/

namespace Handin.Url

def segment (special : Bool) (s : String) : List Char :=
  percentEncode (if special then inSpecialSegment else inSegment)
    (s.toList.filter fun c => c != '\t' && c != '\n' && c != '\r')

/-- Adds a segment after a slash. A path that is a lone slash keeps that slash for it. The texts `.`
and `..` add nothing; a segment that only its tabs and line ends kept from being one of them acts as
one. -/
def push (scheme : String) (list : List String) (s : String) : List String :=
  if s = "." ∨ s = ".." then list
  else
    let front := if list = [""] then [] else list
    let seg := segment (isSpecialScheme scheme) s
    if seg = ['.', '.'] then pop front ++ [""]
    else if seg = ['.'] then front ++ [""]
    else if scheme = "file" ∧ front = [] ∧ isDrive seg then
      [String.ofList (seg.take 1 ++ [':'])]
    else front ++ [String.ofList seg]

def Path.cleared : Path → Path
  | flat t => flat t
  | segments guarded [] => segments guarded []
  | segments guarded _ => segments guarded [""]

def withSegments (u : Url) (parts : List String) : Url :=
  match u.path.cleared with
  | .flat _ => u
  | .segments guarded list =>
    { u with path := .segments guarded ((parts ++ [""]).foldl (push u.scheme) list) }

end Handin.Url
