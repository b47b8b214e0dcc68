import Handin.Text.Numeral
import Handin.Text.Utf8

namespace Handin.Url

open Text

def upperDigit (n : Nat) : Char := (digit n).toUpper

def percentByte (b : UInt8) : List Char :=
  ['%', upperDigit (b.toNat / 16), upperDigit (b.toNat % 16)]

def charBytes (c : Char) : Bytes := utf8 (String.ofList [c])

def isControl (c : Char) : Bool := c.toNat < 0x20 || 0x7f ≤ c.toNat

def percentEncode (special : Char → Bool) (cs : List Char) : List Char :=
  cs.flatMap fun c =>
    if isControl c || special c then (charBytes c).flatMap percentByte else [c]

def percentDecode : List Char → Bytes
  | [] => []
  | '%' :: a :: b :: rest =>
    match digitValue? a, digitValue? b with
    | some x, some y => UInt8.ofNat (16 * x + y) :: percentDecode rest
    | _, _ => charBytes '%' ++ percentDecode (a :: b :: rest)
  | c :: rest => charBytes c ++ percentDecode rest

def inFragment (c : Char) : Bool := [' ', '"', '<', '>', '`'].contains c

def inPath (c : Char) : Bool := inFragment c || ['#', '?', '{', '}'].contains c

def inUserInfo (c : Char) : Bool :=
  inPath c || ['/', ':', ';', '=', '@', '[', '\\', ']', '^', '|'].contains c

def inQuery (c : Char) : Bool := [' ', '"', '#', '<', '>'].contains c

def inSpecialQuery (c : Char) : Bool := inQuery c || c == '\''

def inSegment (c : Char) : Bool := inPath c || c == '/' || c == '%'

def inSpecialSegment (c : Char) : Bool := inSegment c || c == '\\'

end Handin.Url
