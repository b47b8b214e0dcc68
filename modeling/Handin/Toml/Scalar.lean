import Handin.Toml.Value

namespace Handin.Toml

open Text

def isWordChar (c : Char) : Bool :=
  c.isAlphanum || c == '_' || c == '+' || c == '-' || c == '.' || c == ':'

def digits? (isDigitChar : Char → Bool) : List Char → Option (List Char)
  | [] => none
  | [c] => if isDigitChar c then some [c] else none
  | c :: '_' :: rest => if isDigitChar c then (digits? isDigitChar rest).map (c :: ·) else none
  | c :: rest => if isDigitChar c then (digits? isDigitChar rest).map (c :: ·) else none

def signed : List Char → Bool × List Char
  | '-' :: rest => (true, rest)
  | '+' :: rest => (false, rest)
  | cs => (false, cs)

def wholeDigits? (cs : List Char) : Option (List Char) := do
  let ds ← digits? isDigit cs
  if ds.head? = some '0' ∧ ds.length ≠ 1 then none else some ds

def inRange (i : Int) : Option Value :=
  if -9223372036854775808 ≤ i ∧ i ≤ 9223372036854775807 then some (.integer i) else none

def isDigitOf (base : Nat) (c : Char) : Bool := (digitValue? c).any (· < base)

def integer? (cs : List Char) : Option Value :=
  match cs with
  | '0' :: 'x' :: rest => based 16 rest
  | '0' :: 'o' :: rest => based 8 rest
  | '0' :: 'b' :: rest => based 2 rest
  | _ => do
    let (negative, rest) := signed cs
    let n ← value? 10 (← wholeDigits? rest)
    inRange (if negative then -(n : Int) else n)
where
  based (base : Nat) (rest : List Char) : Option Value := do
    let n ← value? base (← digits? (isDigitOf base) rest)
    inRange n

def exponent? (cs : List Char) : Option Int := do
  let (negative, rest) := signed cs
  let n ← value? 10 (← digits? isDigit rest)
  return if negative then -(n : Int) else n

/-- A number with a fraction, an exponent or both; one too large to hold is refused unless it is
negative. -/
def decimal? (cs : List Char) : Option Value := do
  let (negative, rest) := signed cs
  let isMark (c : Char) : Bool := c == 'e' || c == 'E'
  let mantissa := rest.takeWhile (!isMark ·)
  let mark := rest.dropWhile (!isMark ·)
  let exponent ← if mark.isEmpty then some 0 else exponent? mark.tail
  let whole := mantissa.takeWhile (· != '.')
  let point := mantissa.dropWhile (· != '.')
  let whole ← wholeDigits? whole
  let fraction ← if point.isEmpty then some [] else digits? isDigit point.tail
  if mark.isEmpty ∧ point.isEmpty then none
  let n ← value? 10 (whole ++ fraction)
  let x := Binary64.ofDecimal negative n (exponent - fraction.length)
  if x = .infinite false then none else some (.float x)

def field? (width low high : Nat) (cs : List Char) : Option (Nat × List Char) := do
  let ds := cs.take width
  if ds.length ≠ width ∨ !ds.all isDigit then none
  let n ← value? 10 ds
  if low ≤ n ∧ n ≤ high then some (n, cs.drop width) else none

def mark? (c : Char) : List Char → Option (List Char)
  | d :: rest => if c = d then some rest else none
  | [] => none

def day? (cs : List Char) : Option (List Char) := do
  let (year, cs) ← field? 4 0 9999 cs
  let cs ← mark? '-' cs
  let (month, cs) ← field? 2 1 12 cs
  let cs ← mark? '-' cs
  let (day, cs) ← field? 2 1 31 cs
  let leap := year % 4 = 0 ∧ (year % 100 ≠ 0 ∨ year % 400 = 0)
  let most := if month = 2 then (if leap then 29 else 28)
    else if month = 4 ∨ month = 6 ∨ month = 9 ∨ month = 11 then 30 else 31
  if day ≤ most then some cs else none

def time? (cs : List Char) : Option (List Char) := do
  let (_, cs) ← field? 2 0 23 cs
  let cs ← mark? ':' cs
  let (_, cs) ← field? 2 0 59 cs
  let cs ← mark? ':' cs
  let (_, cs) ← field? 2 0 60 cs
  match cs with
  | '.' :: rest =>
    if (rest.takeWhile isDigit).isEmpty then none else some (rest.dropWhile isDigit)
  | _ => some cs

def isOffset : List Char → Bool
  | [] => true
  | ['Z'] => true
  | ['z'] => true
  | c :: rest =>
    (c == '+' || c == '-') && (do
      let (_, cs) ← field? 2 0 23 rest
      let cs ← mark? ':' cs
      let (_, cs) ← field? 2 0 59 cs
      return cs.isEmpty).getD false

def isOffsetTime (cs : List Char) : Bool := (time? cs).any isOffset

def isMoment (cs : List Char) : Bool :=
  match day? cs with
  | some [] => true
  | some (c :: rest) => (c == 'T' || c == 't') && isOffsetTime rest
  | none => (time? cs).any (·.isEmpty)

def scalar? (word : List Char) : Option Value :=
  match String.ofList word with
  | "true" => some (.boolean true)
  | "false" => some (.boolean false)
  | "inf" => some (.float (.infinite false))
  | "+inf" => some (.float (.infinite false))
  | "-inf" => some (.float (.infinite true))
  | "nan" => some (.float .nan)
  | "+nan" => some (.float .nan)
  | "-nan" => some (.float .nan)
  | text =>
    if isMoment word then some (.moment text)
    else (decimal? word).orElse fun _ => integer? word

end Handin.Toml
