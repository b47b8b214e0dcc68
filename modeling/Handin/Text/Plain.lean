namespace Handin.Text

inductive Steering
  | none
  | escape
  | middle
  | parameters
  | afterParameters
  | title
  | data
  deriving DecidableEq

def Steering.next (here : Steering) (c : Char) : Steering :=
  let n := c.toNat
  if n = 0x1b then .escape
  else if n = 0x18 ∨ n = 0x1a then .none
  else
    match here with
    | .none => .none
    | .escape =>
      if 0x20 ≤ n ∧ n ≤ 0x2f then .middle
      else if c = '[' then .parameters
      else if c = ']' then .title
      else if c = 'P' ∨ c = 'X' ∨ c = '^' ∨ c = '_' then .data
      else if 0x30 ≤ n ∧ n ≤ 0x7e then .none
      else .escape
    | .middle => if 0x30 ≤ n ∧ n ≤ 0x7e then .none else .middle
    | .parameters =>
      if 0x40 ≤ n ∧ n ≤ 0x7e then .none
      else if 0x20 ≤ n ∧ n ≤ 0x2f then .afterParameters
      else .parameters
    | .afterParameters => if 0x40 ≤ n ∧ n ≤ 0x7e then .none else .afterParameters
    | .title => if n = 0x07 then .none else .title
    | .data => .data

def isKeptBlank (c : Char) : Bool :=
  c == ' ' || c == '\t' || c == '\n' || c == '\x0c' || c == '\r'

/-- Drops control characters and terminal sequences; blanks of a line and line ends stay. -/
def plain : Steering → List Char → List Char
  | _, [] => []
  | .none, c :: rest =>
    if isKeptBlank c || (0x20 ≤ c.toNat && c.toNat != 0x7f) then c :: plain .none rest
    else plain (Steering.next .none c) rest
  | here, c :: rest =>
    if isKeptBlank c && c != ' ' && here != .title && here != .data then c :: plain .none rest
    else plain (here.next c) rest

end Handin.Text
