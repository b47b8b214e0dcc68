namespace Handin.Options

/-- Marks, for each character of `a` from place `i` on, the first unmarked equal character of `b`
that is at most `reach` places away; gives which characters of `a` found one, and the marks. -/
def pair (reach i : Nat) : List Char → List (Char × Bool) → List Bool × List (Char × Bool)
  | [], b => ([], b)
  | x :: a, b =>
    let found := b.zipIdx.find? fun ((y, marked), j) =>
      x == y && !marked && i ≤ j + reach && j ≤ i + reach
    match found with
    | some (_, j) =>
      let (rest, b) := pair reach (i + 1) a (b.set j (x, true))
      (true :: rest, b)
    | none =>
      let (rest, b) := pair reach (i + 1) a b
      (false :: rest, b)

def likeness (a b : List Char) : Float :=
  if a.isEmpty && b.isEmpty then 1
  else
    let reach := max a.length b.length / 2 - 1
    let (marks, paired) := pair reach 0 a (b.map (·, false))
    let left := ((a.zip marks).filter (·.2)).map (·.1)
    let right := (paired.filter (·.2)).map (·.1)
    let swaps := ((left.zip right).filter fun (x, y) => x != y).length / 2
    let n := left.length
    if n = 0 then 0
    else (n.toFloat / a.length.toFloat + n.toFloat / b.length.toFloat
      + (n - swaps).toFloat / n.toFloat) / 3

end Handin.Options
