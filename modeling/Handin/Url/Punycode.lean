namespace Handin.Url.Punycode

def digitChar (d : Nat) : Char :=
  if d < 26 then Char.ofNat (97 + d) else Char.ofNat (22 + d)

def digit? (c : Char) : Option Nat :=
  if 'a' ≤ c && c ≤ 'z' then some (c.toNat - 97)
  else if 'A' ≤ c && c ≤ 'Z' then some (c.toNat - 65)
  else if '0' ≤ c && c ≤ '9' then some (c.toNat - 22)
  else none

def threshold (k bias : Nat) : Nat :=
  if k ≤ bias then 1 else if bias + 26 ≤ k then 26 else k - bias

theorem threshold_pos (k bias : Nat) : 1 ≤ threshold k bias := by
  unfold threshold
  split
  · omega
  · split <;> omega

theorem threshold_le (k bias : Nat) : threshold k bias ≤ 26 := by
  unfold threshold
  split
  · omega
  · split <;> omega

def shrink (delta k : Nat) : Nat :=
  if 455 < delta then shrink (delta / 35) (k + 36) else k + 36 * delta / (delta + 38)
termination_by delta
decreasing_by omega

def adapt (delta count : Nat) (first : Bool) : Nat :=
  let delta := if first then delta / 700 else delta / 2
  shrink (delta + delta / count) 0

def char? (n : Nat) : Option Char :=
  if h : n.isValidChar then some (Char.ofNatAux n h) else none

/-- A label being decoded: the last character and the next place, the bias, the value, weight and
place of the numeral being read, and the characters so far. -/
structure Decoding where
  n : Nat := 128
  i : Nat := 0
  bias : Nat := 72
  value : Nat := 0
  weight : Nat := 1
  k : Nat := 36
  out : List Char := []

def Decoding.digit (s : Decoding) (d : Nat) : Option Decoding := do
  let value := s.value + d * s.weight
  let t := threshold s.k s.bias
  if d < t then
    let count := s.out.length + 1
    let n := s.n + (s.i + value) / count
    let i := (s.i + value) % count
    let c ← char? n
    return ⟨n, i + 1, adapt value count (s.i == 0), 0, 1, 36, s.out.take i ++ c :: s.out.drop i⟩
  else return { s with value, weight := s.weight * (36 - t), k := s.k + 36 }

def decode? (label : List Char) : Option (List Char) := do
  let tail := label.reverse.takeWhile (· != '-')
  let ascii := (label.reverse.drop (tail.length + 1)).reverse
  let digits := if ascii.isEmpty then label else tail.reverse
  let s ← digits.foldlM (fun (s : Decoding) c => do s.digit (← digit? c)) { out := ascii }
  if s.k = 36 then some s.out else none

def numeral (bias q k : Nat) : List Char :=
  let t := threshold k bias
  if _h : q < t then [digitChar q]
  else digitChar (t + (q - t) % (36 - t)) :: numeral bias ((q - t) / (36 - t)) (k + 36)
termination_by q
decreasing_by
  have h1 := threshold_pos k bias
  have h2 := threshold_le k bias
  have h3 : (q - threshold k bias) / (36 - threshold k bias) ≤ q - threshold k bias :=
    Nat.div_le_self _ _
  omega

/-- A label being encoded: the difference so far, the bias, how many characters are written, and
the digits. -/
structure Encoding where
  delta : Nat := 0
  bias : Nat := 72
  written : Nat
  out : List Char := []

def Encoding.pass (ascii m : Nat) (s : Encoding) (c : Char) : Encoding :=
  if c.toNat < m then { s with delta := s.delta + 1 }
  else if c.toNat = m then
    ⟨0, adapt s.delta (s.written + 1) (s.written == ascii), s.written + 1,
      s.out ++ numeral s.bias s.delta 36⟩
  else s

def encode (label : List Char) : List Char :=
  let ascii := label.filter (·.toNat < 128)
  let others := ((label.filter (128 ≤ ·.toNat)).map (·.toNat)).mergeSort.eraseDups
  let (s, _) := others.foldl (fun (s, n) m =>
    let s := { s with delta := s.delta + (m - n) * (s.written + 1) }
    let s := label.foldl (Encoding.pass ascii.length m) s
    ({ s with delta := s.delta + 1 }, m + 1)) (({ written := ascii.length } : Encoding), 128)
  (if ascii.isEmpty then [] else ascii ++ ['-']) ++ s.out

end Handin.Url.Punycode
