import Handin.Request

namespace Handin

structure Submission where
  url : Url
  upload : Option (List String)
  deriving DecidableEq, Repr

namespace Submission

def files (s : Submission) : List String := s.upload.getD []

def method (s : Submission) : String := methodName s.upload.isSome

def describe (s : Submission) : String :=
  s.method ++ " " ++ s.url.text ++ String.join (s.files.map fun n => " -F " ++ n ++ "=@" ++ n)

end Submission

end Handin
