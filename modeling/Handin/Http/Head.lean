import Handin.Http.Scan

namespace Handin.Http

structure Header where
  name : Bytes
  value : Bytes
  deriving DecidableEq, Repr

structure Head where
  isOld : Bool
  status : Nat
  headers : List Header
  deriving DecidableEq, Repr

namespace Header

def isToken (b : UInt8) : Bool :=
  Scan.isDigit b || (65 ≤ b && b ≤ 90) || (97 ≤ b && b ≤ 122) ||
    (Text.utf8 "!#$%&'*+-.^_`|~").contains b

def lower (b : UInt8) : UInt8 := if 65 ≤ b && b ≤ 90 then b + 32 else b

def trim (b : Bytes) : Bytes :=
  ((b.dropWhile Scan.isBlank).reverse.dropWhile Scan.isBlank).reverse

def scan (b : Bytes) : Scan Header :=
  (Scan.run isToken b).bind fun name b =>
    match name, b with
    | _ :: _, 58 :: b => (Scan.line b).bind fun text b => .found ⟨name.map lower, trim text⟩ b
    | _, _ => .malformed

def most : Nat := 100

def scanAll : Nat → Bytes → Scan (List Header)
  | _, [] => .unfinished
  | room, x :: b =>
    if x = Scan.lineFeed ∨ x = Scan.carriageReturn then
      (Scan.lineEnd (x :: b)).bind fun _ b => .found [] b
    else
      match room with
      | 0 => .malformed
      | room + 1 => (scan (x :: b)).bind fun h b => (scanAll room b).bind fun hs b =>
        .found (h :: hs) b

end Header

namespace Head

def scanVersion (b : Bytes) : Scan Bool :=
  (Scan.exactly (Text.utf8 "HTTP/1.") b).bind fun _ b =>
    match b with
    | [] => .unfinished
    | 48 :: b => .found true b
    | 49 :: b => .found false b
    | _ => .malformed

def scanStatus (b : Bytes) : Scan Nat :=
  (Scan.digit b).bind fun x b => (Scan.digit b).bind fun y b => (Scan.digit b).bind fun z b =>
    .found (100 * x + 10 * y + z) b

def scanReason : Bytes → Scan Unit
  | [] => .unfinished
  | x :: b =>
    if x = Scan.space then (Scan.line b).bind fun _ b => .found () b else Scan.lineEnd (x :: b)

def scanOne (b : Bytes) : Scan Head :=
  (Scan.emptyLines (b.length + 1) b).bind fun _ b =>
  (scanVersion b).bind fun isOld b =>
  (Scan.exactly [Scan.space] b).bind fun _ b =>
  (scanStatus b).bind fun status b =>
  (scanReason b).bind fun _ b =>
  (Header.scanAll Header.most b).bind fun headers b =>
    if status < 100 then .malformed else .found ⟨isOld, status, headers⟩ b

def isInterim (h : Head) : Bool := h.status < 200 && h.status != 101

def scanFinal : Nat → Bytes → Scan Head
  | 0, _ => .malformed
  | fuel + 1, b => (scanOne b).bind fun h b =>
    if h.isInterim then scanFinal fuel b else .found h b

/-- Reads the head of a reply. As each head takes some of the bytes, there are fewer heads than
bytes. -/
def scan (b : Bytes) : Scan Head := scanFinal (b.length + 1) b

def values (h : Head) (name : String) : List Bytes :=
  (h.headers.filter (·.name == Text.utf8 name)).map (·.value)

end Head

end Handin.Http
