namespace Handin.Text

def digit (n : Nat) : Char :=
  if n < 10 then Char.ofNat (48 + n) else Char.ofNat (87 + n)

def digitValue? (c : Char) : Option Nat :=
  if '0' ≤ c && c ≤ '9' then some (c.toNat - 48)
  else if 'a' ≤ c && c ≤ 'f' then some (c.toNat - 87)
  else if 'A' ≤ c && c ≤ 'F' then some (c.toNat - 55)
  else none

def numeral (base n : Nat) : List Char :=
  if _h : n < base ∨ base < 2 then [digit n]
  else numeral base (n / base) ++ [digit (n % base)]
termination_by n
decreasing_by
  have : base ≤ n ∧ 2 ≤ base := by omega
  exact Nat.div_lt_self (by omega) (by omega)

def decimal (n : Nat) : List Char := numeral 10 n

def padded (width n : Nat) : List Char :=
  let ds := decimal n
  List.replicate (width - ds.length) '0' ++ ds

def value? (base : Nat) : List Char → Option Nat
  | [] => none
  | cs => cs.foldl (fun acc c => do
      let n ← acc
      let d ← digitValue? c
      if d < base then some (n * base + d) else none) (some 0)

/-- A number from zero to `bound`: decimal digits, with `+` allowed in front. -/
def unsigned? (bound : Nat) (cs : List Char) : Option Nat :=
  let ds := match cs with
    | '+' :: rest => rest
    | _ => cs
  (value? 10 ds).filter (· ≤ bound)

def isDigit (c : Char) : Bool := '0' ≤ c && c ≤ '9'

def hex (b : List UInt8) : List Char :=
  b.flatMap fun x => [digit (x.toNat / 16), digit (x.toNat % 16)]

end Handin.Text
