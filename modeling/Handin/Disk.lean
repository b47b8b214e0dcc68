import Handin.Text.Utf8

namespace Handin

namespace Disk

inductive Trouble
  | notFound
  | notFolder
  | isFolder
  | unreadable
  | denied
  | linkLoop
  | nameTooLong
  | nulInName
  | notText
  deriving DecidableEq, Repr

def Trouble.message : Trouble → String
  | notFound => "No such file or directory (os error 2)"
  | notFolder => "Not a directory (os error 20)"
  | isFolder => "Is a directory (os error 21)"
  | unreadable => "Input/output error (os error 5)"
  | denied => "Permission denied (os error 13)"
  | linkLoop => "Too many levels of symbolic links (os error 40)"
  | nameTooLong => "File name too long (os error 36)"
  | nulInName => "file name contained an unexpected NUL byte"
  | notText => "stream did not contain valid UTF-8"

inductive Content
  | bytes (b : Bytes)
  | unreadable
  | unopenable
  deriving DecidableEq, Repr

inductive Found
  | absent (why : Trouble)
  | folder
  | file (content : Content)
  deriving DecidableEq, Repr

end Disk

structure Disk where
  look : String → Disk.Found

namespace Disk

def isFile (d : Disk) (path : String) : Bool :=
  match d.look path with
  | .file _ => true
  | _ => false

def readText (d : Disk) (path : String) : Except Trouble String :=
  match d.look path with
  | .absent why => .error why
  | .folder => .error .isFolder
  | .file .unreadable => .error .unreadable
  | .file .unopenable => .error .denied
  | .file (.bytes b) =>
    match Text.ofUtf8? b with
    | some s => .ok s
    | none => .error .notText

/-- The path of `name` in the folder `dir`: an absolute name stands for itself. -/
def join (dir name : String) : String :=
  match name.toList, dir.toList.getLast? with
  | '/' :: _, _ => name
  | _, none => name
  | _, some '/' => dir ++ name
  | _, some _ => dir ++ "/" ++ name

end Disk

end Handin
