import Handin.Url.Basic

namespace Handin.Url

def cleaned (s : String) : List Char :=
  let outer (cs : List Char) : List Char := cs.dropWhile (·.toNat ≤ 0x20)
  ((outer (outer s.toList).reverse).reverse).filter fun c => c != '\t' && c != '\n' && c != '\r'

def isSchemeChar (c : Char) : Bool := c.isAlphanum || c == '+' || c == '-' || c == '.'

def scheme? (cs : List Char) : Option (String × List Char) :=
  let s := cs.takeWhile isSchemeChar
  match cs.dropWhile isSchemeChar with
  | ':' :: rest =>
    if s.head?.any Char.isAlpha then some (String.ofList (s.map Char.toLower), rest) else none
  | _ => none

def isSlash (special : Bool) (c : Char) : Bool := c == '/' || (special && c == '\\')

def endsAuthority (special : Bool) (c : Char) : Bool := isSlash special c || c == '?' || c == '#'

def isDrive : List Char → Bool
  | [a, b] => a.isAlpha && (b == ':' || b == '|')
  | _ => false

def isSingleDot (cs : List Char) : Bool :=
  [".", "%2e"].contains (String.ofList (cs.map Char.toLower))

def isDoubleDot (cs : List Char) : Bool :=
  ["..", ".%2e", "%2e.", "%2e%2e"].contains (String.ofList (cs.map Char.toLower))

def pop (list : List String) : List String :=
  if list.getLast?.any (isDrive ·.toList) then list else list.dropLast

def addSegment (file last : Bool) (list : List String) (cs : List Char) : List String :=
  let seg := percentEncode inPath cs
  if isDoubleDot seg then (if last then pop list ++ [""] else pop list)
  else if isSingleDot seg then (if last then list ++ [""] else list)
  else if file && list.isEmpty && isDrive seg then [String.ofList (seg.take 1 ++ [':'])]
  else list ++ [String.ofList seg]

def addSegments (file : Bool) (list : List String) : List (List Char) → List String
  | [] => list
  | [cs] => addSegment file true list cs
  | cs :: rest => addSegments file (addSegment file false list cs) rest

def cut (special : Bool) (cs : List Char) : List (List Char) := cs.splitOnP (isSlash special)

def endsPath (c : Char) : Bool := c == '?' || c == '#'

def readPath (scheme : String) (list : List String) (cs : List Char) : List String × List Char :=
  (addSegments (scheme == "file") list (cut (isSpecialScheme scheme) (cs.takeWhile (!endsPath ·))),
    cs.dropWhile (!endsPath ·))

/-- Reads a path just after an authority. Under a scheme that is not special it may be empty. -/
def readPathStart (scheme : String) (cs : List Char) : List String × List Char :=
  let special := isSpecialScheme scheme
  match cs with
  | [] => (if special then [""] else [], [])
  | c :: rest =>
    if isSlash special c then readPath scheme [] rest
    else if !special && endsPath c then ([], cs)
    else readPath scheme [] cs

def readTail (special : Bool) (cs : List Char) : Option String × Option String :=
  let fragment (cs : List Char) : String := String.ofList (percentEncode inFragment cs)
  match cs with
  | '?' :: rest =>
    let q := rest.takeWhile (· != '#')
    let query := String.ofList (percentEncode (if special then inSpecialQuery else inQuery) q)
    match rest.dropWhile (· != '#') with
    | [] => (some query, none)
    | _ :: f => (some query, some (fragment f))
  | '#' :: rest => (none, some (fragment rest))
  | _ => (none, none)

def finish (scheme : String) (authority : Option Authority) (path : List String × List Char) :
    Url :=
  let (query, fragment) := readTail (isSpecialScheme scheme) path.2
  let guarded := authority.isNone && path.1.length > 1 && path.1.head? == some ""
  ⟨scheme, authority, .segments guarded path.1, query, fragment⟩

def readUser (cs : List Char) : String × Option String :=
  let encode (cs : List Char) : String := String.ofList (percentEncode inUserInfo cs)
  match cs.dropWhile (· != ':') with
  | _ :: p :: password => (encode (cs.takeWhile (· != ':')), some (encode (p :: password)))
  | _ => (encode (cs.takeWhile (· != ':')), none)

def spanHost (special : Bool) : Bool → List Char → List Char × List Char
  | _, [] => ([], [])
  | inside, c :: rest =>
    if (c == ':' && !inside) || endsAuthority special c then ([], c :: rest)
    else
      let (host, more) := spanHost special (if c == '[' then true else c != ']' && inside) rest
      (c :: host, more)

def readPort (scheme : String) (cs : List Char) : Except Fault (Option Nat × List Char) :=
  let digits := cs.takeWhile Text.isDigit
  let rest := cs.dropWhile Text.isDigit
  if !rest.head?.all (endsAuthority true) then .error .badPort
  else
    match Text.value? 10 digits with
    | none => .ok (none, rest)
    | some n =>
      if 65535 < n then .error .badPort
      else .ok (if defaultPort? scheme = some n then none else some n, rest)

def splitUser? (special : Bool) (cs : List Char) : Option (List Char × List Char) :=
  let whole := cs.takeWhile (!endsAuthority special ·)
  if whole.contains '@' then
    let after := (whole.reverse.takeWhile (· != '@')).reverse
    some (whole.take (whole.length - after.length - 1),
      after ++ cs.dropWhile (!endsAuthority special ·))
  else none

def readHost (scheme : String) (cs : List Char) :
    Except Fault (Host × Option Nat × List Char) := do
  let special := isSpecialScheme scheme
  let (hostText, rest) := spanHost special false cs
  if special && hostText.isEmpty then throw .emptyHost
  let host ← if special then Host.ofName hostText else Host.plain hostText
  match rest with
  | ':' :: rest =>
    if hostText.isEmpty then throw .emptyHost
    let (port, rest) ← readPort scheme rest
    return (host, port, rest)
  | _ => return (host, none, rest)

def readAuthority (scheme : String) (cs : List Char) : Except Fault Url := do
  let special := isSpecialScheme scheme
  let (user, rest) := match splitUser? special cs with
    | some (user, rest) => (user, rest)
    | none => ([], cs)
  let isGiven := (splitUser? special cs).isSome
  if isGiven && user.isEmpty && rest.head?.any (endsAuthority special) then throw .emptyHost
  let (username, password) := readUser user
  let (host, port, rest) ← readHost scheme rest
  if host = .name "" ∧ (username ≠ "" ∨ password ≠ none) then throw .emptyHost
  return finish scheme (some ⟨username, password, host, port⟩) (readPathStart scheme rest)

/-- Whether the first segment that is no dot is a drive, which takes the place of a host. -/
def startsWithDrive (cs : List Char) : Bool :=
  ((cut true (cs.takeWhile (!endsPath ·))).find? fun s =>
    !isSingleDot s && !isDoubleDot s).any isDrive

def trimSegments (path : List String × List Char) : List String × List Char :=
  match path.1.dropWhile (· == "") with
  | [] => ([""], path.2)
  | list => (list, path.2)

def dropSlash (cs : List Char) : List Char :=
  match cs with
  | c :: rest => if isSlash true c then rest else cs
  | [] => []

def readFile (cs : List Char) : Except Fault Url := do
  let rest := dropSlash cs
  if cs.head?.any (isSlash true) ∧ rest.head?.any (isSlash true) then
    let rest := dropSlash rest
    let hostText := rest.takeWhile (!endsAuthority true ·)
    let after := rest.dropWhile (!endsAuthority true ·)
    if isDrive hostText then
      return finish "file" (some { host := .name "" }) (trimSegments (readPath "file" [] rest))
    else
      let host ← if hostText.isEmpty then pure (Host.name "") else Host.ofName hostText
      let isHere := host == .name "localhost" || startsWithDrive (dropSlash after)
      let host := if isHere then .name "" else host
      return finish "file" (some { host }) (trimSegments (readPathStart "file" after))
  else
    return finish "file" (some { host := .name "" }) (trimSegments (readPath "file" [] rest))

def readOther (scheme : String) (cs : List Char) : Except Fault Url :=
  match cs with
  | '/' :: '/' :: rest => readAuthority scheme rest
  | '/' :: rest => .ok (finish scheme none (readPath scheme [] rest))
  | _ =>
    let (query, fragment) := readTail false (cs.dropWhile (!endsPath ·))
    let flat := percentEncode (fun _ => false) (cs.takeWhile (!endsPath ·))
    .ok ⟨scheme, none, .flat (String.ofList flat), query, fragment⟩

def readWhole (scheme : String) (cs : List Char) : Except Fault Url :=
  if scheme = "file" then readFile cs
  else if isSpecialScheme scheme then readAuthority scheme (cs.dropWhile (isSlash true))
  else readOther scheme cs

def parse (s : String) : Except Fault Url :=
  match scheme? (cleaned s) with
  | some (scheme, rest) => readWhole scheme rest
  | none => .error .noBase

def segments (u : Url) : List String :=
  match u.path with
  | .segments _ list => list
  | .flat _ => []

def readRelative (base : Url) (cs : List Char) : Except Fault Url :=
  match cs with
  | [] => .ok { base with fragment := none }
  | '?' :: _ =>
    let (query, fragment) := readTail true cs
    .ok { base with query, fragment }
  | '#' :: _ => .ok { base with fragment := (readTail true cs).2 }
  | c :: rest =>
    if !isSlash true c then
      .ok (finish base.scheme base.authority (readPath base.scheme base.segments.dropLast cs))
    else if !rest.head?.any (isSlash true) then
      .ok (finish base.scheme base.authority (readPath base.scheme [] rest))
    else
      match c, rest with
      | '/', '/' :: more => readAuthority base.scheme more
      | _, _ => readAuthority base.scheme (cs.dropWhile (isSlash true))

def resolve (base : Url) (s : String) : Except Fault Url :=
  let cs := cleaned s
  match scheme? cs with
  | none => readRelative base cs
  | some (scheme, rest) =>
    let slashes := (rest.takeWhile (isSlash true)).length
    if scheme = base.scheme ∧ scheme ≠ "file" ∧ isSpecialScheme scheme ∧ slashes < 2 then
      readRelative base rest
    else readWhole scheme rest

end Handin.Url
