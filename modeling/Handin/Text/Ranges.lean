import Handin.Text.Blank
import Handin.Text.Numeral

namespace Handin.Text

structure Ranges where
  spans : Array (Nat × Nat)

namespace Ranges

def span (word : List Char) : Nat × Nat :=
  let first := (value? 16 (word.takeWhile (· != '-'))).getD 0
  let last := word.dropWhile (· != '-')
  (first, if last.isEmpty then first else (value? 16 last.tail).getD first)

def ofText (text : String) : Ranges :=
  ⟨((words text.toList).map span).toArray⟩

def below (spans : Array (Nat × Nat)) (x lo hi : Nat) : Nat :=
  if h : lo < hi then
    let mid := (lo + hi) / 2
    if (spans.getD mid (0, 0)).2 < x then below spans x (mid + 1) hi
    else below spans x lo mid
  else lo
termination_by hi - lo

def contains (r : Ranges) (x : Nat) : Bool :=
  match r.spans[below r.spans x 0 r.spans.size]? with
  | some (first, last) => first ≤ x && x ≤ last
  | none => false

end Ranges

end Handin.Text
