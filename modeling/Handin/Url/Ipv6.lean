import Handin.Text.Numeral

namespace Handin.Url.Ipv6

open Text

def group? (cs : List Char) : Option Nat :=
  if cs.length ≤ 4 then value? 16 cs else none

def byte? (cs : List Char) : Option Nat :=
  if !cs.all isDigit ∨ (cs.head? = some '0' ∧ cs.length ≠ 1) then none
  else (value? 10 cs).filter (· ≤ 255)

def quad? (cs : List Char) : Option (List Nat) := do
  match ← (cs.splitOn '.').mapM byte? with
  | [a, b, c, d] => some [a * 256 + b, c * 256 + d]
  | _ => none

def groups? (cs : List Char) : Option (List Nat) := do
  if cs.isEmpty then return []
  let gs := cs.splitOn ':'
  let front ← gs.dropLast.mapM group?
  let last ← gs.getLast?
  let last ← if last.contains '.' then quad? last else (group? last).map ([·])
  return front ++ last

def splitGap? : List Char → Option (List Char × List Char)
  | [] => none
  | ':' :: ':' :: rest => some ([], rest)
  | c :: rest => (splitGap? rest).map fun (before, after) => (c :: before, after)

def parse? (cs : List Char) : Option (List Nat) := do
  match splitGap? cs with
  | none =>
    let gs ← groups? cs
    if gs.length = 8 then some gs else none
  | some (before, after) =>
    if before.contains '.' then none
    let front ← groups? before
    let back ← groups? after
    if front.length + back.length < 8 then
      some (front ++ List.replicate (8 - front.length - back.length) 0 ++ back)
    else none

def zeros (gs : List Nat) : Nat := (gs.takeWhile (· == 0)).length

/-- Where the longest run of two or more zeros begins, the first of equals, and its length. -/
def longestRun (gs : List Nat) : Option (Nat × Nat) :=
  (List.range gs.length).foldl (fun (best : Option (Nat × Nat)) i =>
    let n := zeros (gs.drop i)
    if 2 ≤ n && (best.all fun (_, most) => most < n) then some (i, n) else best) none

def groupsText (gs : List Nat) : List Char := [':'].intercalate (gs.map (numeral 16))

def text (gs : List Nat) : List Char :=
  match longestRun gs with
  | none => groupsText gs
  | some (i, n) => groupsText (gs.take i) ++ [':', ':'] ++ groupsText (gs.drop (i + n))

end Handin.Url.Ipv6
