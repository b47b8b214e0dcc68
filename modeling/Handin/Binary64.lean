import Handin.Text.Numeral

namespace Handin

/-- A number of the format; a finite one is `significand * 2 ^ exponent` with a sign. -/
inductive Binary64
  | finite (negative : Bool) (significand : Nat) (exponent : Int)
  | infinite (negative : Bool)
  | nan
  deriving DecidableEq, Repr

namespace Binary64

def roundHalfEven (n d : Nat) : Nat :=
  let q := n / d
  let r := n % d
  if d < 2 * r || (2 * r == d && q % 2 == 1) then q + 1 else q

def inUnits (n d : Nat) (e : Int) : Nat × Nat :=
  if 0 ≤ e then (n, d * Nat.pow 2 e.toNat) else (n * Nat.pow 2 (-e).toNat, d)

def nearest (negative : Bool) (n d : Nat) : Binary64 :=
  let low : Int := (n.log2 : Int) - d.log2 - 53
  let (a, b) := inUnits n d low
  let e := max (if Nat.pow 2 53 ≤ a / b then low + 1 else low) (-1074)
  let (a, b) := inUnits n d e
  let m := roundHalfEven a b
  let (m, e) := if m = Nat.pow 2 53 then (Nat.pow 2 52, e + 1) else (m, e)
  if 971 < e then infinite negative else finite negative m e

def ofDecimal (negative : Bool) (digits : Nat) (exponent : Int) : Binary64 :=
  let size := (Text.decimal digits).length + exponent
  if digits = 0 ∨ size < -330 then finite negative 0 (-1074)
  else if 310 < size then infinite negative
  else if 0 ≤ exponent then nearest negative (digits * Nat.pow 10 exponent.toNat) 1
  else nearest negative digits (Nat.pow 10 (-exponent).toNat)

end Binary64

end Handin
