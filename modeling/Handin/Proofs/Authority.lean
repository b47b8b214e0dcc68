import Mathlib.Data.List.TakeWhile
import Handin.Proofs.Colons
import Handin.Proofs.Names
import Handin.Url.Parser

/-! Authorities are read up to the first character that ends them: what comes after has no say in
them, and a port at their end is read unless something else ended them before it. -/

namespace Handin.Url

open Text

/-- None of the characters ends an authority. -/
def Inside (cs : List Char) : Prop := ∀ c ∈ cs, endsAuthority true c = false

/-- What may come after an authority. -/
def Beyond (cs : List Char) : Prop := ∀ c, cs.head? = some c → endsAuthority true c = true

theorem not_isDigit_of_ends {c : Char} (ends : endsAuthority true c = true) : isDigit c = false := by
  simp only [endsAuthority, isSlash, Bool.or_eq_true, beq_iff_eq, Bool.true_and] at ends
  rcases ends with ((rfl | rfl) | rfl) | rfl <;> rfl

theorem Inside.parts {cs : List Char} (inside : Inside cs) :
    cs.takeWhile (!endsAuthority true ·) = cs ∧ cs.dropWhile (!endsAuthority true ·) = [] := by
  have kept : ∀ c ∈ cs, (!endsAuthority true c) = true := by
    intro c member
    rw [inside c member]
    rfl
  exact ⟨List.takeWhile_eq_self_iff.mpr kept, List.dropWhile_eq_nil_iff.mpr kept⟩

theorem Inside.of_suffix {cs rest : List Char} (inside : Inside cs) (last : rest <:+ cs) :
    Inside rest :=
  fun c member => inside c (last.subset member)

theorem splitUser?_append {front beyond : List Char} (inside : Inside front)
    (after : Beyond beyond) : splitUser? true (front ++ beyond) =
      (splitUser? true front).map fun (user, rest) => (user, rest ++ beyond) := by
  have all := inside.parts
  have stops : ∀ c, beyond.head? = some c → (!endsAuthority true c) = false := by
    intro c first
    rw [after c first]
    rfl
  obtain ⟨taken, dropped⟩ := takeWhile_append (!endsAuthority true ·) front stops
  rw [all.1] at taken
  rw [all.2, List.nil_append] at dropped
  unfold splitUser?
  rw [taken, dropped, all.1, all.2]
  dsimp only
  split <;> simp

theorem spanHost_append (inBrackets : Bool) (front : List Char) {beyond : List Char}
    (after : Beyond beyond) : spanHost true inBrackets (front ++ beyond) =
      ((spanHost true inBrackets front).1, (spanHost true inBrackets front).2 ++ beyond) := by
  induction front generalizing inBrackets with
  | nil =>
      cases beyond with
      | nil => rfl
      | cons c rest =>
          have stops : spanHost true inBrackets (c :: rest) = ([], c :: rest) := by
            rw [spanHost, if_pos (by simp [after c rfl])]
          rw [List.nil_append, stops]
          rfl
  | cons c rest ih =>
      rw [List.cons_append, spanHost, spanHost]
      split
      · rfl
      · rw [ih]

theorem spanHost_whole (inBrackets : Bool) (cs : List Char) :
    (spanHost true inBrackets cs).1 ++ (spanHost true inBrackets cs).2 = cs := by
  induction cs generalizing inBrackets with
  | nil => rfl
  | cons c rest ih =>
      rw [spanHost]
      split
      · rfl
      · exact congrArg (c :: ·) (ih _)

theorem spanHost_inside (inBrackets : Bool) {cs : List Char} (inside : Inside cs) :
    (spanHost true inBrackets cs).2 = [] ∨ ∃ rest, (spanHost true inBrackets cs).2 = ':' :: rest := by
  induction cs generalizing inBrackets with
  | nil => exact .inl rfl
  | cons c rest ih =>
      have goesOn := inside c List.mem_cons_self
      rw [spanHost]
      split
      · next stops =>
          simp only [goesOn, Bool.or_false, Bool.and_eq_true, beq_iff_eq] at stops
          exact .inr ⟨rest, by rw [stops.1]⟩
      · exact ih _ (inside.of_suffix (List.suffix_cons c rest))

theorem readPort_append (scheme : String) (front : List Char) {beyond : List Char}
    (after : Beyond beyond) : readPort scheme (front ++ beyond) =
      (readPort scheme front).map fun (port, rest) => (port, rest ++ beyond) := by
  have stops : ∀ c, beyond.head? = some c → isDigit c = false := by
    intro c first
    exact not_isDigit_of_ends (after c first)
  obtain ⟨digits, rest⟩ := takeWhile_append isDigit front stops
  have ended : (front.dropWhile isDigit ++ beyond).head?.all (endsAuthority true) =
      (front.dropWhile isDigit).head?.all (endsAuthority true) := by
    cases front.dropWhile isDigit with
    | nil =>
        cases beyond with
        | nil => rfl
        | cons c rest => exact after c rfl
    | cons => rfl
  unfold readPort
  dsimp only
  rw [digits, rest, ended]
  by_cases stops : (!(front.dropWhile isDigit).head?.all (endsAuthority true)) = true
  · rw [if_pos stops, if_pos stops]
    rfl
  · rw [if_neg stops, if_neg stops]
    cases value? 10 (front.takeWhile isDigit) with
    | none => rfl
    | some n =>
        dsimp only
        by_cases large : 65535 < n
        · rw [if_pos large, if_pos large]
          rfl
        · rw [if_neg large, if_neg large]
          rfl

theorem readPort_inside {scheme : String} {cs rest : List Char} {port : Option Nat}
    (inside : Inside cs) (read : readPort scheme cs = .ok (port, rest)) :
    rest = [] ∧ (∀ c ∈ cs, isDigit c = true) ∧ ∀ n, value? 10 cs = some n →
      port = if defaultPort? scheme = some n then none else some n := by
  unfold readPort at read
  dsimp only at read
  split at read
  · cases read
  · next stops =>
      -- a port stops at the end of the authority only, and that is the end of the text
      have left : cs.dropWhile isDigit = [] := by
        cases remains : cs.dropWhile isDigit with
        | nil => rfl
        | cons c more =>
            have member : c ∈ cs := by
              apply (List.dropWhile_sublist isDigit).subset
              rw [remains]
              exact List.mem_cons_self
            simp [remains, inside c member] at stops
      have digits : cs.takeWhile isDigit = cs := by
        have parted := List.takeWhile_append_dropWhile (p := isDigit) (l := cs)
        rwa [left, List.append_nil] at parted
      rw [left, digits] at read
      have all := List.dropWhile_eq_nil_iff.mp left
      split at read
      · next unread =>
          cases read
          exact ⟨rfl, all, fun n value => absurd (unread.symm.trans value) nofun⟩
      · next m value =>
          split at read
          · cases read
          · cases read
            refine ⟨rfl, all, fun n value' => ?_⟩
            rw [Option.some.inj (value'.symm.trans value)]

theorem Host.colon_notMem {cs : List Char} {host : Host} (read : Host.ofName cs = .ok host)
    (open_ : cs.getLast? ≠ some ']') : ':' ∉ cs := by
  intro member
  unfold Host.ofName at read
  split at read
  · rw [Host.bracketed, if_neg open_] at read
    cases read
  · have unnamed : ((ofUtf8? (percentDecode cs)).bind fun s => Domain.toAscii? s.toList) = none := by
      cases decoded : ofUtf8? (percentDecode cs) with
      | none => rfl
      | some s =>
          cases named : Domain.toAscii? s.toList with
          | none => exact named
          | some ascii => exact absurd (colon_mem_decoded decoded member) (Domain.colon_notMem named)
    rw [unnamed] at read
    cases read

theorem after_last_colon {front front' after after' : List Char}
    (same : front ++ ':' :: after = front' ++ ':' :: after') (clean : ':' ∉ after)
    (clean' : ':' ∉ after') : after = after' := by
  rcases List.append_eq_append_iff.mp same with ⟨more, _, tail⟩ | ⟨more, _, tail⟩
  · cases more with
    | nil => exact (List.cons.inj tail).2
    | cons c rest =>
        have inside : ':' ∈ after := by
          rw [(List.cons.inj tail).2]
          simp
        exact absurd inside clean
  · cases more with
    | nil => exact (List.cons.inj tail).2.symm
    | cons c rest =>
        have inside : ':' ∈ after' := by
          rw [(List.cons.inj tail).2]
          simp
        exact absurd inside clean'

def portAfter (scheme : String) (cs : List Char) : Except Fault (Option Nat × List Char) :=
  match cs with
  | ':' :: rest => readPort scheme rest
  | _ => .ok (none, cs)

theorem portAfter_append (scheme : String) (front : List Char) {beyond : List Char}
    (after : Beyond beyond) : portAfter scheme (front ++ beyond) =
      (portAfter scheme front).map fun (port, rest) => (port, rest ++ beyond) := by
  unfold portAfter
  split
  · next rest colon =>
      cases front with
      | nil =>
          have ends := after ':' (congrArg List.head? colon)
          cases ends
      | cons c more =>
          cases colon
          exact readPort_append scheme more after
  · next absent =>
      split
      · next rest => exact absurd rfl (absent (rest ++ beyond))
      · rfl

theorem readHost_eq {scheme : String} (special : isSpecialScheme scheme = true) (cs : List Char) :
    readHost scheme cs =
      if (spanHost true false cs).1 = [] then .error .emptyHost
      else
        (Host.ofName (spanHost true false cs).1).bind fun host =>
          (portAfter scheme (spanHost true false cs).2).map fun (port, rest) =>
            (host, port, rest) := by
  unfold readHost
  simp only [special]
  rcases spanHost true false cs with ⟨hostText, rest⟩
  cases hostText with
  | nil => rfl
  | cons c more =>
      rw [if_neg (List.cons_ne_nil c more)]
      cases named : Host.ofName (c :: more) with
      | error fault => rfl
      | ok host =>
          show (match rest with
            | ':' :: rest => readPort scheme rest >>= fun (port, rest) => pure (host, port, rest)
            | _ => pure (host, none, rest)) = (portAfter scheme rest).map _
          unfold portAfter
          split
          · next port => cases readPort scheme port <;> rfl
          · rfl

theorem readHost_append {scheme : String} (special : isSpecialScheme scheme = true)
    (front : List Char) {beyond : List Char} (after : Beyond beyond) :
    readHost scheme (front ++ beyond) =
      (readHost scheme front).map fun (host, port, rest) => (host, port, rest ++ beyond) := by
  rw [readHost_eq special, readHost_eq special, spanHost_append false front after]
  dsimp only
  by_cases empty : (spanHost true false front).1 = []
  · rw [if_pos empty, if_pos empty]
    rfl
  · rw [if_neg empty, if_neg empty, portAfter_append scheme _ after]
    cases Host.ofName (spanHost true false front).1 with
    | error fault => rfl
    | ok host => cases portAfter scheme (spanHost true false front).2 <;> rfl

theorem readHost_ok {scheme : String} (special : isSpecialScheme scheme = true) {cs rest : List Char}
    {host : Host} {port : Option Nat} (read : readHost scheme cs = .ok (host, port, rest)) :
    Host.ofName (spanHost true false cs).1 = .ok host ∧
      portAfter scheme (spanHost true false cs).2 = .ok (port, rest) := by
  rw [readHost_eq special] at read
  split at read
  · cases read
  · obtain ⟨host', named, read⟩ := bind_ok read
    cases after : portAfter scheme (spanHost true false cs).2 with
    | error fault =>
        rw [after] at read
        cases read
    | ok pair =>
        rw [after] at read
        cases read
        exact ⟨named, rfl⟩

theorem readHost_inside {scheme : String} (special : isSpecialScheme scheme = true)
    {cs rest : List Char} {host : Host} {port : Option Nat} (inside : Inside cs)
    (read : readHost scheme cs = .ok (host, port, rest)) : rest = [] := by
  have after := (readHost_ok special read).2
  have whole := spanHost_whole false cs
  rcases spanHost_inside false inside with none | ⟨more, colon⟩
  · rw [none] at after
    cases after
    rfl
  · rw [colon] at after whole
    have last : more <:+ cs := by
      rw [← whole]
      exact (List.suffix_cons ':' more).trans (List.suffix_append _ _)
    exact (readPort_inside (inside.of_suffix last) after).1

theorem readHost_port {scheme : String} (special : isSpecialScheme scheme = true)
    {front digits rest : List Char} {host : Host} {port : Option Nat} {n : Nat}
    (inside : Inside (front ++ ':' :: digits)) (clean : ∀ c ∈ digits, isDigit c = true)
    (value : value? 10 digits = some n)
    (read : readHost scheme (front ++ ':' :: digits) = .ok (host, port, rest)) :
    port = if defaultPort? scheme = some n then none else some n := by
  obtain ⟨named, after⟩ := readHost_ok special read
  have whole := spanHost_whole false (front ++ ':' :: digits)
  have notDigit {cs : List Char} (all : ∀ c ∈ cs, isDigit c = true) {c : Char}
      (other : isDigit c = false) : c ∉ cs := by
    intro member
    rw [all c member] at other
    cases other
  rcases spanHost_inside false inside with none | ⟨more, colon⟩
  · -- the brackets that would keep the colon in the host are not closed
    rw [none, List.append_nil] at whole
    rw [whole] at named
    have unclosed : (front ++ ':' :: digits).getLast? ≠ some ']' := by
      intro closed
      rcases List.eq_nil_or_concat digits with rfl | ⟨init, last, rfl⟩
      · cases value
      · rw [List.concat_eq_append, ← List.cons_append, ← List.append_assoc,
          List.getLast?_concat] at closed
        have digit := clean last (by simp)
        rw [Option.some.inj closed] at digit
        cases digit
    exact absurd (by simp) (Host.colon_notMem named unclosed)
  · -- the host stops before a colon with digits after it: that is the last colon
    rw [colon] at after whole
    have last : more <:+ front ++ ':' :: digits := by
      rw [← whole]
      exact (List.suffix_cons ':' more).trans (List.suffix_append _ _)
    obtain ⟨_, all, port'⟩ := readPort_inside (inside.of_suffix last) after
    have same : more = digits :=
      after_last_colon whole (notDigit all rfl) (notDigit clean rfl)
    exact port' n (same ▸ value)

def withUser (user : List Char) (host : Host) (port : Option Nat) : Except Fault Authority :=
  let (username, password) := readUser user
  if host = .name "" ∧ (username ≠ "" ∨ password ≠ none) then .error .emptyHost
  else .ok ⟨username, password, host, port⟩

def authority? (scheme : String) (cs : List Char) : Except Fault Authority :=
  let (user, rest) := (splitUser? true cs).getD ([], cs)
  (readHost scheme rest).bind fun (host, port, _) => withUser user host port

theorem splitUser?_rest {cs user rest : List Char} (inside : Inside cs)
    (parted : splitUser? true cs = some (user, rest)) :
    rest = (cs.reverse.takeWhile (· != '@')).reverse := by
  unfold splitUser? at parted
  rw [inside.parts.1, inside.parts.2] at parted
  dsimp only at parted
  split at parted
  · cases parted
    rw [List.append_nil]
  · cases parted

theorem splitUser?_suffix {cs user rest : List Char} (inside : Inside cs)
    (parted : splitUser? true cs = some (user, rest)) : rest <:+ cs := by
  have start := List.takeWhile_prefix (· != '@') (l := cs.reverse)
  rw [splitUser?_rest inside parted]
  rwa [← List.reverse_suffix, List.reverse_reverse] at start

theorem readHost_nil {scheme : String} (special : isSpecialScheme scheme = true) :
    readHost scheme [] = .error .emptyHost := by
  rw [readHost_eq special]
  rfl

theorem readRest_eq {scheme : String} (special : isSpecialScheme scheme = true)
    {rest beyond : List Char} (inside : Inside rest) (after : Beyond beyond) (user : List Char) :
    (do
      let (username, password) := readUser user
      let (host, port, left) ← readHost scheme (rest ++ beyond)
      if host = .name "" ∧ (username ≠ "" ∨ password ≠ none) then throw .emptyHost
      return finish scheme (some ⟨username, password, host, port⟩) (readPathStart scheme left)) =
    ((readHost scheme rest).bind fun (host, port, _) => withUser user host port).map fun a =>
      finish scheme (some a) (readPathStart scheme beyond) := by
  rw [readHost_append special rest after]
  cases read : readHost scheme rest with
  | error fault => rfl
  | ok found =>
      obtain ⟨host, port, left⟩ := found
      have all := readHost_inside special inside read
      subst all
      dsimp only [Except.map, Except.bind, bind, withUser]
      rw [List.nil_append]
      by_cases nameless : host = .name "" ∧ ((readUser user).1 ≠ "" ∨ (readUser user).2 ≠ none)
      · rw [if_pos nameless, if_pos nameless]
        rfl
      · rw [if_neg nameless, if_neg nameless]
        rfl

theorem readAuthority_eq {scheme : String} (special : isSpecialScheme scheme = true)
    {front beyond : List Char} (inside : Inside front) (after : Beyond beyond) :
    readAuthority scheme (front ++ beyond) =
      (authority? scheme front).map fun a =>
        finish scheme (some a) (readPathStart scheme beyond) := by
  unfold readAuthority authority?
  simp only [special]
  rw [splitUser?_append inside after]
  cases parted : splitUser? true front with
  | none => exact readRest_eq special inside after []
  | some pair =>
      obtain ⟨user, rest⟩ := pair
      have inside' := inside.of_suffix (splitUser?_suffix inside parted)
      have same := readRest_eq special inside' after user
      dsimp only [Option.map_some, Option.getD_some, Option.isSome_some]
      split
      · next nameless =>
          -- a host that is not there is missed now or later
          have empty : rest = [] := by
            cases rest with
            | nil => rfl
            | cons c more => simp [inside' c List.mem_cons_self] at nameless
          rw [empty, readHost_nil special]
          rfl
      · exact same

/-- Any text after `//` is an authority up to the first character that ends one. -/
theorem readAuthority_parted {scheme : String} (special : isSpecialScheme scheme = true)
    (cs : List Char) : readAuthority scheme cs =
      (authority? scheme (cs.takeWhile (!endsAuthority true ·))).map fun a =>
        finish scheme (some a) (readPathStart scheme (cs.dropWhile (!endsAuthority true ·))) := by
  have inside : Inside (cs.takeWhile (!endsAuthority true ·)) := by
    intro c member
    simpa using List.mem_takeWhile_imp member
  have after : Beyond (cs.dropWhile (!endsAuthority true ·)) := by
    intro c first
    have stops := List.head?_dropWhile_not (!endsAuthority true ·) cs
    rw [first] at stops
    simpa using stops
  rw [← readAuthority_eq special inside after, List.takeWhile_append_dropWhile]

theorem withUser_port {user : List Char} {host : Host} {port : Option Nat} {a : Authority}
    (made : withUser user host port = .ok a) : a.port = port := by
  unfold withUser at made
  dsimp only at made
  split at made
  · cases made
  · cases made
    rfl

theorem splitUser?_port {front digits user rest : List Char}
    (inside : Inside (front ++ ':' :: digits)) (clean : '@' ∉ digits)
    (parted : splitUser? true (front ++ ':' :: digits) = some (user, rest)) :
    ∃ front', rest = front' ++ ':' :: digits := by
  -- the last `@` is sought from the end, and the port has none
  have passed : ∀ c ∈ digits.reverse ++ [':'], (c != '@') = true := by
    intro c member
    rcases List.mem_append.mp member with digit | colon
    · have other : c ≠ '@' := fun same => clean (same ▸ List.mem_reverse.mp digit)
      simpa using other
    · rw [List.mem_singleton.mp colon]
      rfl
  have reversed : (front ++ ':' :: digits).reverse = (digits.reverse ++ [':']) ++ front.reverse := by
    simp
  have last := splitUser?_rest inside parted
  rw [reversed, List.takeWhile_append_of_pos passed] at last
  exact ⟨(front.reverse.takeWhile (· != '@')).reverse, by simpa using last⟩

theorem authority?_port {scheme : String} (special : isSpecialScheme scheme = true)
    {front digits : List Char} {a : Authority} {n : Nat} (inside : Inside (front ++ ':' :: digits))
    (clean : ∀ c ∈ digits, isDigit c = true) (value : value? 10 digits = some n)
    (read : authority? scheme (front ++ ':' :: digits) = .ok a) :
    a.port.or (defaultPort? scheme) = some n := by
  have port : a.port = if defaultPort? scheme = some n then none else some n := by
    unfold authority? at read
    cases parted : splitUser? true (front ++ ':' :: digits) with
    | none =>
        rw [parted] at read
        obtain ⟨⟨host, port, rest⟩, found, made⟩ := bind_ok read
        rw [withUser_port made]
        exact readHost_port special inside clean value found
    | some pair =>
        obtain ⟨user, rest⟩ := pair
        have digit : '@' ∉ digits := by
          intro member
          have other := clean '@' member
          cases other
        obtain ⟨front', rfl⟩ := splitUser?_port inside digit parted
        rw [parted] at read
        obtain ⟨⟨host, port, rest⟩, found, made⟩ := bind_ok read
        rw [withUser_port made]
        have inside' := inside.of_suffix (splitUser?_suffix inside parted)
        exact readHost_port special inside' clean value found
  rw [port]
  split
  · next own => exact own
  · rfl

theorem readPathStart_rest {scheme : String} (special : isSpecialScheme scheme = true)
    (cs : List Char) : (readPathStart scheme cs).2 = cs.dropWhile (!endsPath ·) := by
  cases cs with
  | nil => rfl
  | cons c rest =>
      unfold readPathStart
      simp only [special, Bool.not_true, Bool.false_and, Bool.false_eq_true, if_false]
      split
      · next slash =>
          have passed : (!endsPath c) = true := by
            simp only [isSlash, Bool.or_eq_true, beq_iff_eq, Bool.true_and] at slash
            rcases slash with rfl | rfl <;> rfl
          rw [List.dropWhile_cons_of_pos (p := (!endsPath ·)) passed]
          rfl
      · rfl

theorem finish_bare_iff {scheme : String} (special : isSpecialScheme scheme = true)
    (a : Option Authority) (cs : List Char) :
    (finish scheme a (readPathStart scheme cs)).query = none ∧
        (finish scheme a (readPathStart scheme cs)).fragment = none ↔
      '?' ∉ cs ∧ '#' ∉ cs := by
  have tail : ∀ left : List Char, (∀ c, left.head? = some c → endsPath c = true) →
      ((readTail true left).1 = none ∧ (readTail true left).2 = none ↔ left = []) := by
    intro left marked
    cases left with
    | nil => simp [readTail]
    | cons c rest =>
        have mark := marked c rfl
        simp only [endsPath, Bool.or_eq_true, beq_iff_eq] at mark
        rcases mark with rfl | rfl
        · simp only [readTail]
          split <;> simp
        · simp [readTail]
  have marked : ∀ c, (cs.dropWhile (!endsPath ·)).head? = some c → endsPath c = true := by
    intro c first
    have stops := List.head?_dropWhile_not (!endsPath ·) cs
    rw [first] at stops
    simpa using stops
  have all : cs.dropWhile (!endsPath ·) = [] ↔ '?' ∉ cs ∧ '#' ∉ cs := by
    rw [List.dropWhile_eq_nil_iff]
    constructor
    · intro unmarked
      exact ⟨fun member => absurd (unmarked '?' member) (by decide),
        fun member => absurd (unmarked '#' member) (by decide)⟩
    · rintro ⟨query, fragment⟩ c member
      have other : c ≠ '?' ∧ c ≠ '#' :=
        ⟨fun same => query (same ▸ member), fun same => fragment (same ▸ member)⟩
      simp [endsPath, other.1, other.2]
  unfold finish
  rw [special, readPathStart_rest special]
  exact (tail _ marked).trans all

end Handin.Url
