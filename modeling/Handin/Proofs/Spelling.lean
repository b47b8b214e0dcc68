import Handin.Proofs.Loading

namespace Handin.Config

theorem splitScheme?_isSome_iff {cs : List Char} :
    (splitScheme? cs).isSome = true ↔ HasScheme cs := by
  unfold HasScheme
  fun_induction splitScheme? cs with
  | case1 => simp
  | case2 rest => simpa using ⟨[], rest, rfl⟩
  | case3 c rest other ih =>
      have unmarked : ¬ [':', '/', '/'] <+: c :: rest := by
        rintro ⟨more, same⟩
        obtain ⟨rfl, tail⟩ := List.cons.inj same
        exact other more rfl tail.symm
      simp [List.infix_cons_iff, unmarked, ih]

theorem splitScheme?_bare {cs : List Char} (bare : ¬ HasScheme cs) : splitScheme? cs = none := by
  rw [← Option.not_isSome_iff_eq_none, splitScheme?_isSome_iff]
  exact bare

theorem splitScheme?_append {scheme : List Char} (bare : ¬ HasScheme scheme) (rest : List Char) :
    splitScheme? (scheme ++ ':' :: '/' :: '/' :: rest) = some (scheme, rest) := by
  induction scheme with
  | nil => rfl
  | cons c scheme ih =>
      have tail : ¬ HasScheme scheme := fun ⟨front, back, whole⟩ =>
        bare ⟨c :: front, back, congrArg (c :: ·) whole⟩
      have passed : splitScheme? (c :: (scheme ++ ':' :: '/' :: '/' :: rest)) =
          (splitScheme? (scheme ++ ':' :: '/' :: '/' :: rest)).map fun parted =>
            (c :: parted.1, parted.2) := by
        rw [splitScheme?]
        rintro more rfl whole
        -- the scheme would end in a colon or `:/`, and a colon comes next
        rcases scheme with _ | ⟨d, _ | ⟨e, others⟩⟩
        · cases whole
        · cases whole
        · cases whole
          exact bare ⟨[], others, rfl⟩
      rw [List.cons_append, passed, ih tail]
      rfl

theorem splitLast?_append {mark : Char} (before : List Char) {after : List Char}
    (clean : mark ∉ after) : splitLast? mark (before ++ mark :: after) = some (before, after) := by
  have reversed : (before ++ mark :: after).reverse = after.reverse ++ mark :: before.reverse := by
    simp
  have passes : ∀ c ∈ after.reverse, (c != mark) = true := by
    intro c member
    have : c ≠ mark := fun same => clean (same ▸ List.mem_reverse.mp member)
    simpa using this
  unfold splitLast?
  rw [reversed, List.takeWhile_append_of_pos passes, List.dropWhile_append_of_pos passes]
  simp

theorem trimSlashes_append (front : List Char) {last : Char} (shown : last ≠ '/') (n : Nat) :
    trimSlashes (front ++ [last] ++ List.replicate n '/') = front ++ [last] := by
  have slashes : ∀ c ∈ List.replicate n '/', (c == '/') = true := by
    intro c member
    simp [List.eq_of_mem_replicate member]
  unfold trimSlashes
  rw [List.reverse_append, List.reverse_replicate, List.dropWhile_append_of_pos slashes]
  simp [shown]

/-- A name in brackets that has colons of its own, and no other brackets. -/
def IsLiteral (host : List Char) : Prop :=
  ∃ inner, host = '[' :: (inner ++ [']']) ∧ 2 ≤ inner.count ':' ∧ '[' ∉ inner ∧ ']' ∉ inner

theorem IsLiteral.isBracketed {host : List Char} (literal : IsLiteral host) :
    isBracketed host = true := by
  obtain ⟨inner, rfl, _⟩ := literal
  have last : ('[' :: (inner ++ [']'])).getLast? = some ']' := by
    rw [← List.cons_append, List.getLast?_concat]
  simp [Config.isBracketed, last]

theorem not_isBracketed {host : List Char} (unclosed : ']' ∉ host) : isBracketed host = false := by
  simp only [isBracketed, Bool.and_eq_false_iff, beq_eq_false_iff_ne]
  exact .inr fun last => unclosed (List.mem_of_getLast? last)

theorem splitPort_literal {host : List Char} (literal : IsLiteral host) :
    splitPort host = .ok none := by
  obtain ⟨inner, rfl, two, _, unclosed⟩ := literal
  rcases cut : splitLast? ':' ('[' :: (inner ++ [']'])) with _ | ⟨name, port⟩
  · have present : ':' ∈ inner := List.count_pos_iff.mp (by omega)
    exact absurd (by simp [present]) (splitLast?_none_iff.mp cut)
  obtain ⟨whole, clean⟩ := splitLast?_some cut
  have colon : ':' ∈ name := by
    have counted := congrArg (List.count ':') whole
    simp [List.count_append, List.count_eq_zero.mpr clean] at counted
    exact List.count_pos_iff.mp (by omega)
  have after : ']' ∈ port := by
    have last : (':' :: port).getLast? = some ']' := by
      have ends := congrArg List.getLast? whole
      rw [← List.cons_append, List.getLast?_concat, List.getLast?_append, List.getLast?_cons,
        Option.some_or] at ends
      rw [List.getLast?_cons]
      exact ends.symm
    exact (List.mem_cons.mp (List.mem_of_getLast? last)).resolve_left (by decide)
  have before : ']' ∉ name := by
    have counted := congrArg (List.count ']') whole
    have closed := List.count_pos_iff.mpr after
    simp [List.count_append, List.count_eq_zero.mpr unclosed] at counted
    exact List.count_eq_zero.mp (by omega)
  rw [splitPort, cut]
  simp [colon, not_isBracketed before]

theorem splitPort_whole {host : List Char} (whole : ':' ∉ host ∨ IsLiteral host) :
    splitPort host = .ok none := by
  rcases whole with clean | literal
  · rw [splitPort, splitLast?_none_iff.mpr clean]
  · exact splitPort_literal literal

theorem splitPort_named {host digits : List Char} {port : Nat}
    (whole : ':' ∉ host ∨ IsLiteral host) (clean : ':' ∉ digits)
    (read : Text.unsigned? Settings.maxPort digits = some port) :
    splitPort (host ++ ':' :: digits) = .ok (some (host, port)) := by
  have named : (host.contains ':' && !isBracketed host) = false := by
    rcases whole with clean | literal
    · simp [clean]
    · simp [literal.isBracketed]
  rw [splitPort, splitLast?_append host clean]
  simp only [named, read, Bool.false_eq_true, if_false]

theorem hostPort_whole (t : Settings) {host : List Char} (whole : splitPort host = .ok none) :
    hostPort t host = .ok (host, t.port.getD defaultPort) := by
  rw [hostPort, whole]
  rfl

theorem hostPort_named (t : Settings) {host name : List Char} {port : Nat}
    (parted : splitPort host = .ok (some (name, port))) :
    hostPort t host = match t.port with
      | some given =>
        if given ≠ port then .error (.twoPorts (String.ofList host) port given)
        else .ok (name, port)
      | none => .ok (name, port) := by
  rw [hostPort, parted]
  cases t.port <;> rfl

theorem address_schemed {t : Settings} {scheme rest : List Char}
    (cut : splitScheme? (t.host.getD defaultHost).toList = some (scheme, rest)) :
    address t = (scheme, trimSlashes rest) := by
  unfold address
  dsimp only
  rw [cut]

theorem address_unschemed {t : Settings}
    (uncut : splitScheme? (t.host.getD defaultHost).toList = none) :
    address t = ((t.scheme.getD defaultScheme).toList, (t.host.getD defaultHost).toList) := by
  unfold address
  dsimp only
  rw [uncut]

theorem completed_addressed {t : Settings} {secret : String} {scheme host : List Char}
    (filled : secret ≠ "") (addressed : address t = (scheme, host)) (named : host ≠ []) :
    completed t secret = (hostPort t host).bind fun (name, port) =>
      if t.timeoutSecs.getD defaultSecs = 0 then .error .noTime
      else .ok ⟨String.ofList scheme, String.ofList name, port, secret,
        t.timeoutSecs.getD defaultSecs * 1000⟩ := by
  unfold completed
  simp only [if_neg filled, addressed, if_neg named]
  rfl

/-- What a configuration has that can be written out: each part can be told from the next. -/
structure Writable (c : Config) : Prop where
  scheme_bare : ¬ HasScheme c.scheme.toList
  host_filled : c.host ≠ ""
  host_bare : ¬ HasScheme c.host.toList
  host_whole : ':' ∉ c.host.toList ∨ IsLiteral c.host.toList
  port_le : c.port ≤ Settings.maxPort
  secret_filled : c.secret ≠ ""
  timeout_ge : 1000 ≤ c.timeout

def hostText (c : Config) : String := c.host ++ ":" ++ String.ofList (Text.decimal c.port)

/-- The host key has the port, too: behind the host or in a URL, for which the scheme key is of no
account. -/
inductive NamesPort (c : Config) (t : Settings) : Prop
  | host : t.scheme = some c.scheme → t.host = some c.hostText → NamesPort c t
  | url (slashes : Nat) : t.host = some (c.scheme ++ "://" ++ c.hostText ++
      String.ofList (List.replicate slashes '/')) → NamesPort c t
  | base : t.host = some c.baseText → NamesPort c t

inductive Spells (c : Config) (t : Settings) : Prop
  | keys : t.scheme = some c.scheme → t.host = some c.host → t.port = some c.port → Spells c t
  | named : NamesPort c t → t.port = none ∨ t.port = some c.port → Spells c t

section

variable {c : Config} {t : Settings}

theorem toList_hostText (c : Config) :
    c.hostText.toList = c.host.toList ++ ':' :: Text.decimal c.port := by
  simp [hostText, String.toList_append]

theorem digit_ne {c : Char} (digit : Text.isDigit c = true) : c ≠ ':' ∧ c ≠ '/' := by
  constructor
  · rintro rfl
    cases digit
  · rintro rfl
    cases digit

theorem address_url (writable : c.Writable) (slashes : Nat)
    (written : t.host = some (c.scheme ++ "://" ++ c.hostText ++
      String.ofList (List.replicate slashes '/'))) :
    address t = (c.scheme.toList, c.hostText.toList) := by
  obtain ⟨front, last, digits⟩ :=
    (List.eq_nil_or_concat (Text.decimal c.port)).resolve_left (Text.decimal_ne_nil c.port)
  rw [List.concat_eq_append] at digits
  have shown : last ≠ '/' := by
    apply (digit_ne (Text.isDigit_of_mem_decimal (n := c.port) _)).2
    simp [digits]
  have host : c.hostText.toList = c.host.toList ++ ':' :: front ++ [last] := by
    rw [toList_hostText, digits]
    simp
  have whole : (t.host.getD defaultHost).toList = c.scheme.toList ++ ':' :: '/' :: '/' ::
      (c.hostText.toList ++ List.replicate slashes '/') := by
    rw [written]
    simp [String.toList_append]
  have cut := whole ▸ splitScheme?_append writable.scheme_bare _
  rw [address_schemed cut, host, trimSlashes_append _ shown]

theorem address_bare {host : String} (bare : ¬ HasScheme host.toList)
    (scheme : t.scheme = some c.scheme) (written : t.host = some host) :
    address t = (c.scheme.toList, host.toList) := by
  have whole : t.host.getD defaultHost = host := by rw [written, Option.getD_some]
  rw [address_unschemed (whole.symm ▸ splitScheme?_bare bare), whole, scheme, Option.getD_some]

theorem address_named (writable : c.Writable) (named : NamesPort c t) :
    address t = (c.scheme.toList, c.hostText.toList) := by
  cases named with
  | host scheme written =>
      apply address_bare _ scheme written
      have clean : '/' ∉ Text.decimal c.port := fun member =>
        (digit_ne (Text.isDigit_of_mem_decimal member)).2 rfl
      rw [toList_hostText, hasScheme_append_iff clean]
      exact writable.host_bare
  | url slashes written => exact address_url writable slashes written
  | base written =>
      apply address_url writable 0
      rw [written]
      simp [baseText, hostText, String.append_assoc]

theorem splitPort_hostText (writable : c.Writable) :
    splitPort c.hostText.toList = .ok (some (c.host.toList, c.port)) := by
  rw [toList_hostText]
  apply splitPort_named writable.host_whole _ (Text.unsigned?_decimal writable.port_le)
  exact fun member => (digit_ne (Text.isDigit_of_mem_decimal member)).1 rfl

theorem load_of_settings {explicit : Option String} {around : Surroundings} {secret : String}
    (layered : settings? explicit around = .ok t) (shared : sharedSecret around.disk t = .ok secret) :
    load explicit around = (completed t secret).mapError fun f => .config f.message := by
  have resolved : load? explicit around = completed t secret := by
    rw [load?, layered]
    show resolve around.disk t = _
    rw [resolve_eq, shared]
    rfl
  rw [load, resolved]

/-- Every spelling of a configuration loads to it, its own URL among them, with the port in a key of
its own or not. Another port in that key is refused. -/
theorem load_spelled {explicit : Option String} {around : Surroundings} (writable : c.Writable)
    (layered : settings? explicit around = .ok t) (shared : sharedSecret around.disk t = .ok c.secret)
    (timed : t.timeoutSecs.getD defaultSecs * 1000 = c.timeout) :
    (Spells c t → load explicit around = .ok c) ∧
      ∀ given, given ≠ c.port → t.port = some given → NamesPort c t →
        load explicit around = .error (.config
          ("host " ++ c.hostText ++ " names port " ++ String.ofList (Text.decimal c.port) ++
            " but port is set to " ++ String.ofList (Text.decimal given))) := by
  have secs : t.timeoutSecs.getD defaultSecs ≠ 0 := by
    have least := writable.timeout_ge
    omega
  have filled := writable.secret_filled
  rw [load_of_settings layered shared]
  constructor
  · intro spelled
    cases spelled with
    | keys scheme host port =>
        have addressed := address_bare writable.host_bare scheme host
        have named := hostPort_whole t (splitPort_whole writable.host_whole)
        rw [completed_addressed filled addressed (by simpa using writable.host_filled), named, port]
        simp [Except.bind, secs, timed]
        rfl
    | named spelled port =>
        have addressed := address_named writable spelled
        have named := hostPort_named t (splitPort_hostText writable)
        rw [completed_addressed filled addressed (by simp [toList_hostText]), named]
        rcases port with port | port <;> simp [port, Except.bind, secs, timed] <;> rfl
  · intro given other set spelled
    have addressed := address_named writable spelled
    have named := hostPort_named t (splitPort_hostText writable)
    rw [completed_addressed filled addressed (by simp [toList_hostText]), named, set]
    simp [Except.bind, other]
    rfl

end

def Surroundings.withPort (around : Surroundings) (port : String) : Surroundings :=
  { around with env := fun name => if name = "CASEY_PORT" then some port else around.env name }

theorem load_spelled_literal :
    load none (surroundings "https://[::1]:8443//") =
        .ok ⟨"https", "[::1]", 8443, "k", 300000⟩ ∧
      load none ((surroundings "https://[::1]:8443//").withPort "9000") = .error (.config
        "host [::1]:8443 names port 8443 but port is set to 9000") := by
  have writable : Writable ⟨"https", "[::1]", 8443, "k", 300000⟩ :=
    ⟨by decide, by decide, by decide, .inr ⟨[':', ':', '1'], rfl, by decide, by decide, by decide⟩,
      by decide, by decide, by decide⟩
  have digits : Text.decimal 8443 = ['8', '4', '4', '3'] := by decide +kernel
  have given : Text.decimal 9000 = ['9', '0', '0', '0'] := by decide +kernel
  have named (t : Settings) (host : t.host = some "https://[::1]:8443//") :
      NamesPort ⟨"https", "[::1]", 8443, "k", 300000⟩ t := by
    apply NamesPort.url 2
    rw [host, hostText, digits]
    rfl
  constructor
  · exact (load_spelled (t := { host := some "https://[::1]:8443//", secret := some "k" })
      writable rfl rfl rfl).1 (.named (named _ rfl) (.inl rfl))
  · have refused : load none ((surroundings "https://[::1]:8443//").withPort "9000") = _ :=
      (load_spelled
        (t := { host := some "https://[::1]:8443//", port := some 9000, secret := some "k" })
        writable rfl rfl rfl).2 9000 (by decide) rfl (named _ rfl)
    rw [refused, hostText, digits, given]
    rfl

end Handin.Config
