import Handin.Text.Numeral
import Handin.Text.Utf8

namespace Handin.Http

/-- What reading the bytes that have come so far gives. -/
inductive Scan (α : Type)
  | found (value : α) (rest : Bytes)
  | unfinished
  | malformed
  deriving DecidableEq, Repr

namespace Scan

def bind {α β : Type} (s : Scan α) (f : α → Bytes → Scan β) : Scan β :=
  match s with
  | found value rest => f value rest
  | unfinished => unfinished
  | malformed => malformed

def tab : UInt8 := 9
def lineFeed : UInt8 := 10
def carriageReturn : UInt8 := 13
def space : UInt8 := 32

def isDigit (b : UInt8) : Bool := 48 ≤ b && b ≤ 57
def isBlank (b : UInt8) : Bool := b == tab || b == space

def isText (b : UInt8) : Bool := b == tab || (32 ≤ b && b != 127)

def lineEnd : Bytes → Scan Unit
  | [] => unfinished
  | b :: rest =>
    if b = lineFeed then found () rest
    else if b = carriageReturn then
      match rest with
      | [] => unfinished
      | b :: rest => if b = lineFeed then found () rest else malformed
    else malformed

def run (p : UInt8 → Bool) (b : Bytes) : Scan Bytes :=
  match b.dropWhile p with
  | [] => unfinished
  | rest => found (b.takeWhile p) rest

def exactly (text : Bytes) (b : Bytes) : Scan Unit :=
  if text.isPrefixOf b then found () (b.drop text.length)
  else if b.isPrefixOf text then unfinished
  else malformed

def line (b : Bytes) : Scan Bytes :=
  (run isText b).bind fun text b => (lineEnd b).bind fun _ b => found text b

def emptyLines : Nat → Bytes → Scan Unit
  | 0, b => found () b
  | _ + 1, [] => unfinished
  | fuel + 1, x :: b =>
    if x = lineFeed ∨ x = carriageReturn then (lineEnd (x :: b)).bind fun _ b => emptyLines fuel b
    else found () (x :: b)

def digit (b : Bytes) : Scan Nat :=
  match b with
  | [] => unfinished
  | b :: rest => if isDigit b then found (b.toNat - 48) rest else malformed

end Scan

end Handin.Http
