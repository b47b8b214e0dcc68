import Handin.Text.Numeral

namespace Handin.Toml

def isPlainChar (c : Char) : Bool := c == '\t' || (0x20 ≤ c.toNat && c.toNat != 0x7f)

def codeChar? (ds : List Char) : Option Char := do
  let n ← Text.value? 16 ds
  if h : n.isValidChar then some (Char.ofNatAux n h) else none

def letterChar? (c : Char) : Option Char :=
  if c == 'b' then some '\x08'
  else if c == 't' then some '\t'
  else if c == 'n' then some '\n'
  else if c == 'f' then some '\x0c'
  else if c == 'r' then some '\r'
  else if c == '"' || c == '\\' then some c
  else none

abbrev Content := Option (List Char × List Char)

def Content.push (c : Char) (r : Content) : Content := r.map fun (cs, rest) => (c :: cs, rest)

def basic : List Char → Content
  | [] => none
  | '"' :: rest => some ([], rest)
  | '\\' :: 'u' :: a :: b :: c :: d :: rest => do
    let x ← codeChar? [a, b, c, d]
    Content.push x (basic rest)
  | '\\' :: 'U' :: a :: b :: c :: d :: e :: f :: g :: h :: rest => do
    let x ← codeChar? [a, b, c, d, e, f, g, h]
    Content.push x (basic rest)
  | '\\' :: c :: rest => do
    let x ← letterChar? c
    Content.push x (basic rest)
  | c :: rest => if isPlainChar c then Content.push c (basic rest) else none

def literal : List Char → Content
  | [] => none
  | '\'' :: rest => some ([], rest)
  | c :: rest => if isPlainChar c then Content.push c (literal rest) else none

inductive Blanks
  | kept
  | ending
  | dropped
  deriving DecidableEq

/-- Two quotes before the closing three are content. -/
def basicLines : Blanks → List Char → Content
  | _, [] => none
  | mode, '\n' :: rest =>
    if mode = .kept then Content.push '\n' (basicLines .kept rest) else basicLines .dropped rest
  | mode, '\r' :: '\n' :: rest =>
    if mode = .kept then Content.push '\n' (basicLines .kept rest) else basicLines .dropped rest
  | mode, '\t' :: rest =>
    if mode = .kept then Content.push '\t' (basicLines .kept rest) else basicLines mode rest
  | mode, ' ' :: rest =>
    if mode = .kept then Content.push ' ' (basicLines .kept rest) else basicLines mode rest
  | .ending, _ :: _ => none
  | _, '"' :: '"' :: '"' :: '"' :: '"' :: rest => some (['"', '"'], rest)
  | _, '"' :: '"' :: '"' :: '"' :: rest => some (['"'], rest)
  | _, '"' :: '"' :: '"' :: rest => some ([], rest)
  | _, '\\' :: '\n' :: rest => basicLines .dropped rest
  | _, '\\' :: '\r' :: '\n' :: rest => basicLines .dropped rest
  | _, '\\' :: ' ' :: rest => basicLines .ending rest
  | _, '\\' :: '\t' :: rest => basicLines .ending rest
  | _, '\\' :: 'u' :: a :: b :: c :: d :: rest => do
    let x ← codeChar? [a, b, c, d]
    Content.push x (basicLines .kept rest)
  | _, '\\' :: 'U' :: a :: b :: c :: d :: e :: f :: g :: h :: rest => do
    let x ← codeChar? [a, b, c, d, e, f, g, h]
    Content.push x (basicLines .kept rest)
  | _, '\\' :: c :: rest => do
    let x ← letterChar? c
    Content.push x (basicLines .kept rest)
  | _, c :: rest => if isPlainChar c then Content.push c (basicLines .kept rest) else none

def literalLines : List Char → Content
  | [] => none
  | '\'' :: '\'' :: '\'' :: '\'' :: '\'' :: rest => some (['\'', '\''], rest)
  | '\'' :: '\'' :: '\'' :: '\'' :: rest => some (['\''], rest)
  | '\'' :: '\'' :: '\'' :: rest => some ([], rest)
  | '\n' :: rest => Content.push '\n' (literalLines rest)
  | '\r' :: '\n' :: rest => Content.push '\n' (literalLines rest)
  | c :: rest => if isPlainChar c then Content.push c (literalLines rest) else none

def afterOpening : List Char → List Char
  | '\n' :: rest => rest
  | '\r' :: '\n' :: rest => rest
  | cs => cs

def string? : List Char → Content
  | '"' :: '"' :: '"' :: rest => basicLines .kept (afterOpening rest)
  | '\'' :: '\'' :: '\'' :: rest => literalLines (afterOpening rest)
  | '"' :: rest => basic rest
  | '\'' :: rest => literal rest
  | _ => none

end Handin.Toml
