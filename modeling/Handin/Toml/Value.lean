import Handin.Binary64

namespace Handin.Toml

inductive Origin
  | header
  | passed
  | dotted
  | inline
  deriving DecidableEq, Repr

inductive Value
  | string (s : String)
  | integer (i : Int)
  | float (x : Binary64)
  | boolean (b : Bool)
  | moment (text : String)
  | array (items : List Value)
  | tables (items : List (List (String × Value)))
  | table (origin : Origin) (entries : List (String × Value))
  deriving Repr, Inhabited

abbrev Entries := List (String × Value)

namespace Entries

def get? (es : Entries) (key : String) : Option Value := es.lookup key

def put (es : Entries) (key : String) (v : Value) : Entries :=
  match es with
  | [] => [(key, v)]
  | (k, old) :: rest => if k = key then (k, v) :: rest else (k, old) :: put rest key v

def erase (es : Entries) (key : String) : Entries := es.filter (·.1 != key)

structure Step where
  key : String
  isDotted : Bool

/-- Changes the table at the end of a path; the last table of an array stands for the array. A
dotted key may only pass tables that no header has named. -/
def update (change : Origin → Entries → Option Entries) :
    List Step → Origin → Entries → Option Entries
  | [], origin, es => change origin es
  | s :: path, _, es =>
    match es.get? s.key with
    | none => do
      let origin := if s.isDotted then .dotted else .passed
      let child ← update change path origin []
      return es.put s.key (.table origin child)
    | some (.table origin child) => do
      if origin = .inline ∨ (s.isDotted ∧ origin = .header) then none
      let child ← update change path origin child
      return es.put s.key (.table origin child)
    | some (.tables items) => do
      let last ← items.getLast?
      let last ← update change path .header last
      return es.put s.key (.tables (items.dropLast ++ [last]))
    | some _ => none

def add (plain : Bool) (key : String) (v : Value) (origin : Origin) (es : Entries) :
    Option Entries :=
  if (origin == .dotted) == plain then none
  else if (es.get? key).isSome then none
  else some (es ++ [(key, v)])

def set (es : Entries) (header path : List String) (key : String) (v : Value) : Option Entries :=
  update (add path.isEmpty key v) (header.map (⟨·, false⟩) ++ path.map (⟨·, true⟩)) .header es

/-- Opens the table of a header. One that was only passed so far moves to the end. -/
def openTable (es : Entries) (path : List String) (key : String) : Option Entries :=
  update (fun _ es =>
      match es.get? key with
      | none => some (es ++ [(key, .table .header [])])
      | some (.table .passed child) => some (es.erase key ++ [(key, .table .header child)])
      | some _ => none)
    (path.map (⟨·, false⟩)) .header es

def openItem (es : Entries) (path : List String) (key : String) : Option Entries :=
  update (fun _ es =>
      match es.get? key with
      | none => some (es ++ [(key, .tables [[]])])
      | some (.tables items) => some (es.put key (.tables (items ++ [[]])))
      | some _ => none)
    (path.map (⟨·, false⟩)) .header es

end Entries

end Handin.Toml
