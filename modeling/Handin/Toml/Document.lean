import Handin.Toml.Quote
import Handin.Toml.Scalar

/-! Documents: lines of keys with values under headers of tables. -/

namespace Handin.Toml

def skipBlanks (cs : List Char) : List Char := cs.dropWhile fun c => c == ' ' || c == '\t'

/-- Drops blanks, line ends and comments, as between the items of an array; the flag tells whether
a comment is open. -/
def gap : Bool → List Char → List Char
  | _, [] => []
  | _, '\n' :: rest => gap false rest
  | _, '\r' :: '\n' :: rest => gap false rest
  | true, c :: rest => if isPlainChar c then gap true rest else c :: rest
  | false, c :: rest =>
    if c == ' ' || c == '\t' then gap false rest
    else if c == '#' then gap true rest
    else c :: rest

def lineEnd? : List Char → Option (List Char)
  | [] => some []
  | '\n' :: rest => some rest
  | '\r' :: '\n' :: rest => some rest
  | _ => none

def lineRest? (cs : List Char) : Option (List Char) :=
  match skipBlanks cs with
  | '#' :: rest => lineEnd? (rest.dropWhile isPlainChar)
  | rest => lineEnd? rest

def isBareChar (c : Char) : Bool := c.isAlphanum || c == '_' || c == '-'

def name? (cs : List Char) : Option (String × List Char) :=
  match cs with
  | '"' :: rest => (basic rest).map fun (s, more) => (String.ofList s, more)
  | '\'' :: rest => (literal rest).map fun (s, more) => (String.ofList s, more)
  | _ =>
    let bare := cs.takeWhile isBareChar
    if bare.isEmpty then none else some (String.ofList bare, cs.dropWhile isBareChar)

def sepBy {α : Type} (item : List Char → Option (α × List Char)) (sep : Char) :
    Nat → List Char → Option (List α × List Char)
  | 0, _ => none
  | fuel + 1, cs => do
    let (x, rest) ← item cs
    match rest with
    | c :: more =>
      if c = sep then
        let (xs, rest) ← sepBy item sep fuel more
        return (x :: xs, rest)
      else return ([x], rest)
    | [] => return ([x], rest)

def maxDepth : Nat := 79

def key? (cs : List Char) : Option ((List String × String) × List Char) := do
  let (names, rest) ← sepBy (fun cs => do
      let (n, rest) ← name? (skipBlanks cs)
      return (n, skipBlanks rest)) '.' cs.length cs
  let last ← names.getLast?
  if names.length ≤ maxDepth then some ((names.dropLast, last), rest) else none

def keyValue? (value : List Char → Option (Value × List Char)) (cs : List Char) :
    Option (((List String × String) × Value) × List Char) := do
  let (key, rest) ← key? cs
  match rest with
  | '=' :: more =>
    let (v, rest) ← value (skipBlanks more)
    return ((key, v), rest)
  | _ => none

def items? (value : List Char → Option (Value × List Char)) :
    Nat → List Char → Option (List Value × List Char)
  | 0, _ => none
  | fuel + 1, cs =>
    match gap false cs with
    | ']' :: rest => some ([], rest)
    | cs => do
      let (v, rest) ← value cs
      match gap false rest with
      | ',' :: rest =>
        let (vs, rest) ← items? value fuel rest
        return (v :: vs, rest)
      | ']' :: rest => return ([v], rest)
      | _ => none

def inlineTable? (pairs : List ((List String × String) × Value)) : Option Value := do
  let es ← pairs.foldlM (fun (es : Entries) ((path, key), v) => es.set [] path key v) []
  return .table .inline es

def spacedMoment? (word rest : List Char) : Option (Value × List Char) :=
  match rest with
  | ' ' :: more =>
    let next := more.takeWhile isWordChar
    if (day? word).any (·.isEmpty) && isOffsetTime next then
      some (.moment (String.ofList (word ++ ' ' :: next)), more.dropWhile isWordChar)
    else none
  | _ => none

/-- A value in which at most `depth` brackets are open at once, and what follows it. -/
def value? : Nat → List Char → Option (Value × List Char)
  | depth, cs =>
    match cs with
    | '"' :: _ => (string? cs).map fun (s, rest) => (.string (String.ofList s), rest)
    | '\'' :: _ => (string? cs).map fun (s, rest) => (.string (String.ofList s), rest)
    | '[' :: rest =>
      match depth with
      | 0 => none
      | depth + 1 => (items? (value? depth) cs.length rest).map fun (vs, rest) => (.array vs, rest)
    | '{' :: rest =>
      match depth with
      | 0 => none
      | depth + 1 =>
        match skipBlanks rest with
        | '}' :: rest => some (.table .inline [], rest)
        | _ => do
          let (pairs, rest) ← sepBy (fun cs => do
              let (kv, rest) ← keyValue? (value? depth) cs
              return (kv, skipBlanks rest)) ',' cs.length rest
          match rest with
          | '}' :: rest => return (← inlineTable? pairs, rest)
          | _ => none
    | _ =>
      let word := cs.takeWhile isWordChar
      let rest := cs.dropWhile isWordChar
      (spacedMoment? word rest).orElse fun _ => (scalar? word).map fun v => (v, rest)

structure Draft where
  entries : Entries := []
  header : List String := []

def line? (d : Draft) (cs : List Char) : Option (Draft × List Char) :=
  match cs with
  | '[' :: '[' :: rest => do
    let ((path, key), rest) ← key? rest
    match rest with
    | ']' :: ']' :: rest =>
      let rest ← lineRest? rest
      let es ← d.entries.openItem path key
      return (⟨es, path ++ [key]⟩, rest)
    | _ => none
  | '[' :: rest => do
    let ((path, key), rest) ← key? rest
    match rest with
    | ']' :: rest =>
      let rest ← lineRest? rest
      let es ← d.entries.openTable path key
      return (⟨es, path ++ [key]⟩, rest)
    | _ => none
  | _ => do
    let (((path, key), v), rest) ← keyValue? (value? maxDepth) cs
    let rest ← lineRest? rest
    let es ← d.entries.set d.header path key v
    return ({ d with entries := es }, rest)

def lines? : Nat → Draft → List Char → Option Draft
  | 0, _, _ => none
  | fuel + 1, d, cs =>
    match skipBlanks cs with
    | [] => some d
    | '\n' :: rest => lines? fuel d rest
    | '\r' :: '\n' :: rest => lines? fuel d rest
    | '#' :: rest => do
      let rest ← lineEnd? (rest.dropWhile isPlainChar)
      lines? fuel d rest
    | cs => do
      let (d, rest) ← line? d cs
      lines? fuel d rest

def parse? (text : String) : Option Entries :=
  let cs := match text.toList with
    | '\ufeff' :: rest => rest
    | cs => cs
  (lines? (cs.length + 1) {} cs).map (·.entries)

end Handin.Toml
