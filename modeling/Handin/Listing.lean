import Handin.Exchange
import Handin.Text.Blank

namespace Handin.Listing

/-- The names in a reply, parted by white space; a reply without a name is no list. -/
def names? (reply : String) : Option (List String) :=
  match Text.words reply.toList with
  | [] => none
  | ws => some (ws.map String.ofList)

def isPlain (name : String) : Bool :=
  name != "" && name != "." && name != ".." &&
    name.toList.all fun c => c != '/' && c != '\\' && c.toNat != 0

def maxLength : Nat := 4096

inductive Trouble
  | failed
  | rejected
  | unreadable
  | tooLong
  | notText
  deriving DecidableEq, Repr

def Trouble.message : Trouble → String
  | failed => "file name query failed"
  | rejected => "file name query rejected"
  | unreadable => "file name reply unreadable"
  | tooLong => "file name reply too long"
  | notText => "file name reply is not UTF-8"

/-- The bytes of a reply, or its first `room` bytes, with no read made after them. -/
def gather (room : Nat) : List Read → Option Bytes
  | [] => some []
  | .data [] :: _ => some []
  | .data b :: rest =>
    if room ≤ b.length then some (b.take room)
    else (gather (room - b.length) rest).map (b ++ ·)
  | .fault f :: rest => if f.kind = .interrupted then gather room rest else none

/-- Reads a reply whole; one byte more than a list may have tells that it is too long. -/
def readReply (body : List Read) : Except Trouble String :=
  match gather (maxLength + 1) body with
  | none => .error .unreadable
  | some b =>
    if maxLength < b.length then .error .tooLong
    else
      match Text.ofUtf8? b with
      | some s => .ok s
      | none => .error .notText

def ofExchange : Exchange → Except Trouble (Option (List String))
  | .failed _ => .error .failed
  | .answered status body =>
    if isSuccess status then (readReply body).map names? else .error .rejected

end Handin.Listing
