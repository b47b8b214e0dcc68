import Handin.Text.Numeral

namespace Handin.Url.Ipv4

open Text

def number? (cs : List Char) : Option Nat :=
  match cs with
  | [] => none
  | '0' :: 'x' :: rest => if rest.isEmpty then some 0 else value? 16 rest
  | '0' :: 'X' :: rest => if rest.isEmpty then some 0 else value? 16 rest
  | '0' :: d :: rest => value? 8 (d :: rest)
  | _ => value? 10 cs

def parts (name : List Char) : List (List Char) :=
  let ps := name.splitOn '.'
  if ps.getLast? = some [] then ps.dropLast else ps

/-- Whether the last part of a name is a number, so that the name must be an address. -/
def endsInNumber (name : List Char) : Bool :=
  (parts name).getLast?.any fun last =>
    (!last.isEmpty && last.all isDigit) || (number? last).isSome

def parse? (name : List Char) : Option Nat := do
  let numbers ← (parts name).mapM number?
  let last ← numbers.getLast?
  let front := numbers.dropLast
  if 3 < front.length ∨ front.any (255 < ·) ∨ Nat.pow 256 (4 - front.length) ≤ last then none
  else some (front.zipIdx.foldl (fun acc (n, i) => acc + n * Nat.pow 256 (3 - i)) last)

def text (address : Nat) : List Char :=
  ['.'].intercalate ([3, 2, 1, 0].map fun i => decimal (address / Nat.pow 256 i % 256))

end Handin.Url.Ipv4
