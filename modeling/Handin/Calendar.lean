import Handin.Text.Blank
import Handin.Text.Numeral

namespace Handin

open Text

def leap (year : Int) : Bool := year % 4 == 0 && (year % 100 != 0 || year % 400 == 0)

def daysIn (year : Int) (month : Nat) : Nat :=
  if month = 2 then (if leap year then 29 else 28)
  else if month = 4 ∨ month = 6 ∨ month = 9 ∨ month = 11 then 30
  else 31

def OnCalendar (year : Int) (month day : Nat) : Prop :=
  -262143 ≤ year ∧ year ≤ 262142 ∧ 1 ≤ month ∧ month ≤ 12 ∧ 1 ≤ day ∧ day ≤ daysIn year month

instance (year : Int) (month day : Nat) : Decidable (OnCalendar year month day) :=
  inferInstanceAs (Decidable (_ ∧ _))

structure Date where
  year : Int
  month : Nat
  day : Nat
  onCalendar : OnCalendar year month day
  deriving DecidableEq

namespace Date

def of? (year : Int) (month day : Nat) : Option Date :=
  if h : OnCalendar year month day then some ⟨year, month, day, h⟩ else none

/-- Four digits from year 0 to year 9999; outside of them a sign and at least four digits. -/
def yearText (year : Int) : List Char :=
  if 0 ≤ year ∧ year ≤ 9999 then padded 4 year.toNat
  else (if year < 0 then '-' else '+') :: padded 4 year.natAbs

def stampChars (d : Date) : List Char :=
  yearText d.year ++ '/' :: (padded 2 d.month ++ '/' :: padded 2 d.day)

def stamp (d : Date) : String := String.ofList d.stampChars

def number? (width : Nat) (cs : List Char) : Option (Nat × List Char) := do
  let ds := (cs.take width).takeWhile isDigit
  let n ← value? 10 ds
  return (n, cs.drop ds.length)

def year? : List Char → Option (Int × List Char)
  | '-' :: rest => (number? rest.length rest).map fun (n, more) => (-(n : Int), more)
  | '+' :: rest => (number? rest.length rest).map fun (n, more) => ((n : Int), more)
  | cs => (number? 4 cs).map fun (n, more) => ((n : Int), more)

def afterSlash? : List Char → Option (List Char)
  | '/' :: rest => some rest
  | _ => none

/-- Reads a stamp; blanks may stand before each of the three numbers. -/
def ofStampChars? (cs : List Char) : Option Date := do
  let (year, cs) ← year? (trimLeft cs)
  let cs ← afterSlash? cs
  let (month, cs) ← number? 2 (trimLeft cs)
  let cs ← afterSlash? cs
  let (day, cs) ← number? 2 (trimLeft cs)
  if cs.isEmpty then of? year month day else none

def ofStamp? (s : String) : Option Date := ofStampChars? s.toList

end Date

end Handin
