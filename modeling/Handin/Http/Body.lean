import Handin.Http.Head
import Handin.Relay
import Handin.Text.Blank

/-! Bodies of replies: where they end, and the reads they yield. -/

namespace Handin.Http

inductive Ending
  | closed
  | stalled
  deriving DecidableEq, Repr

structure Wire where
  bytes : Bytes
  ending : Ending
  deriving DecidableEq, Repr

inductive Framing
  | length (n : Nat)
  | chunked
  | untilClosed
  deriving DecidableEq, Repr

namespace Framing

def valueText? (value : Bytes) : Option (List Char) :=
  if value.all (· < 128) then some (value.map fun b => Char.ofNat b.toNat) else none

def isChunked (values : List Bytes) : Bool :=
  match values.getLast?.bind valueText? with
  | none => false
  | some text =>
    (text.splitOn ',').getLast?.any fun coding =>
      (Text.trim coding).map Char.toLower == "chunked".toList

def maxLength : Nat := 18446744073709551613

def length? (text : List Char) : Option Nat :=
  if text.all Text.isDigit then (Text.value? 10 text).filter (· < Nat.pow 2 64) else none

def agreed? (values : List Bytes) : Option Nat := do
  let texts ← values.mapM valueText?
  let lengths ← (texts.flatMap (·.splitOn ',')).mapM fun t => length? (Text.trim t)
  match lengths with
  | [] => none
  | n :: rest => if rest.all (· == n) && n ≤ maxLength then some n else none

def ofHead? (h : Head) : Option Framing :=
  let codings := h.values "transfer-encoding"
  let lengths := h.values "content-length"
  if h.status = 101 ∨ h.status = 204 ∨ h.status = 304 then some (.length 0)
  else if codings ≠ [] then
    if h.isOld then none else some (if isChunked codings then .chunked else .untilClosed)
  else if lengths ≠ [] then (agreed? lengths).map .length
  else some .untilClosed

end Framing

namespace Body

def broken : Fault := .wrapping .other (.remark "the reply broke off")

def late : Fault := .wrapping .other (.bare .timedOut)

def cut : Ending → Fault
  | .closed => broken
  | .stalled => late

/-- The read that yields some bytes; none for no bytes, which would end the body. -/
def piece (b : Bytes) : List Read := if b = [] then [] else [.data b]

def hexValue? (b : UInt8) : Option Nat := Text.digitValue? (Char.ofNat b.toNat)

inductive SizePlace
  | start
  | digits
  | blanks
  | remarks
  deriving DecidableEq

def size (place : SizePlace) (n : Nat) : Bytes → Scan Nat
  | [] => .unfinished
  | b :: rest =>
    match place, hexValue? b with
    | .start, some d => size .digits d rest
    | .start, none => .malformed
    | .digits, some d =>
      if Nat.pow 2 64 ≤ 16 * n + d then .malformed else size .digits (16 * n + d) rest
    | .remarks, _ =>
      if b = Scan.carriageReturn then lineFeed n rest
      else if b = Scan.lineFeed then .malformed
      else size .remarks n rest
    | _, _ =>
      if Scan.isBlank b then size .blanks n rest
      else if b = 59 then size .remarks n rest
      else if b = Scan.carriageReturn then lineFeed n rest
      else .malformed
where
  lineFeed (n : Nat) : Bytes → Scan Nat
    | [] => .unfinished
    | b :: rest => if b = Scan.lineFeed then .found n rest else .malformed

def crossLine : Bytes → Scan Unit
  | [] => .unfinished
  | 13 :: [] => .unfinished
  | 13 :: 10 :: rest => .found () rest
  | _ => .malformed

/-- The lines after the last chunk, up to an empty one. `fresh` tells that a line begins. -/
def trailer (fresh : Bool) : Bytes → Scan Unit
  | [] => .unfinished
  | 13 :: [] => .unfinished
  | 13 :: 10 :: rest => if fresh then .found () rest else trailer true rest
  | 13 :: _ => .malformed
  | _ :: rest => trailer false rest

def chunks (ending : Ending) : Nat → Bytes → List Read
  | 0, _ => [.fault broken]
  | fuel + 1, b =>
    match size .start 0 b with
    | .unfinished => [.fault (cut ending)]
    | .malformed => [.fault broken]
    | .found 0 rest =>
      match trailer true rest with
      | .unfinished => [.fault (cut ending)]
      | .malformed => [.fault broken]
      | .found _ _ => []
    | .found n rest =>
      if rest.length < n then piece rest ++ [.fault (cut ending)]
      else
        .data (rest.take n) ::
          match crossLine (rest.drop n) with
          | .unfinished => [.fault (cut ending)]
          | .malformed => [.fault broken]
          | .found _ rest => chunks ending fuel rest

def reads (framing : Framing) (w : Wire) : List Read :=
  match framing with
  | .length n =>
    if w.bytes.length < n then piece w.bytes ++ [.fault (cut w.ending)] else piece (w.bytes.take n)
  | .chunked => chunks w.ending (w.bytes.length + 1) w.bytes
  | .untilClosed =>
    match w.ending with
    | .closed => piece w.bytes
    | .stalled => piece w.bytes ++ [.fault late]

end Body

end Handin.Http
