import Handin.Proofs.Authority
import Handin.Proofs.Decodable
import Handin.Proofs.Loading

/-! The address that a client contacts, by the configuration it is made from. -/

namespace Handin

namespace Url

def isDropped (c : Char) : Bool := c == '\t' || c == '\n' || c == '\r'

theorem not_isDropped_of_isDigit {c : Char} (digit : Text.isDigit c = true) :
    isDropped c = false := by
  apply Bool.eq_false_of_not_eq_true
  intro dropped
  simp only [isDropped, Bool.or_eq_true, beq_iff_eq] at dropped
  rcases dropped with (rfl | rfl) | rfl <;> cases digit

theorem mem_dropWhile {p : Char → Bool} {c : Char} (stays : p c = false) {cs : List Char} :
    c ∈ cs.dropWhile p ↔ c ∈ cs := by
  have parted : c ∈ cs ↔ c ∈ cs.takeWhile p ∨ c ∈ cs.dropWhile p := by
    rw [← List.mem_append, List.takeWhile_append_dropWhile]
  have untaken : c ∉ cs.takeWhile p := by
    intro member
    have passed := List.mem_takeWhile_imp member
    rw [stays] at passed
    cases passed
  rw [parted]
  exact ⟨.inr, fun either => either.resolve_left untaken⟩

theorem cleaned_eq {s : String} {first last : Char} {rest front : List Char}
    (head : s.toList = first :: rest) (final : s.toList = front ++ [last])
    (shown : 0x20 < first.toNat) (shown' : 0x20 < last.toNat) :
    cleaned s = s.toList.filter (!isDropped ·) := by
  have start : s.toList.dropWhile (·.toNat ≤ 0x20) = s.toList := by
    rw [head, List.dropWhile_cons_of_neg]
    simpa using shown
  have finish : s.toList.reverse.dropWhile (·.toNat ≤ 0x20) = s.toList.reverse := by
    rw [final, List.reverse_append, List.reverse_singleton, List.singleton_append,
      List.dropWhile_cons_of_neg]
    simpa using shown'
  have same : ∀ c : Char, (c != '\t' && c != '\n' && c != '\r') = !isDropped c := by
    intro c
    simp [isDropped, bne, Bool.and_assoc]
  unfold cleaned
  dsimp only
  rw [start, finish, List.reverse_reverse]
  exact List.filter_congr fun c _ => same c

def IsWeb (scheme : String) : Prop := scheme = "http" ∨ scheme = "https"

theorem IsWeb.special {scheme : String} (web : IsWeb scheme) : isSpecialScheme scheme = true := by
  rcases web with rfl | rfl <;> decide

theorem IsWeb.letters {scheme : String} (web : IsWeb scheme) :
    (∃ rest, scheme.toList = 'h' :: rest) ∧
      scheme.toList.filter (!isDropped ·) = scheme.toList := by
  rcases web with rfl | rfl <;> exact ⟨⟨_, rfl⟩, rfl⟩

theorem parse_web {scheme s : String} {cs : List Char} (web : IsWeb scheme)
    (clean : cleaned s = scheme.toList ++ ':' :: '/' :: '/' :: cs) :
    parse s = readAuthority scheme (cs.dropWhile (isSlash true)) := by
  rcases web with rfl | rfl
  · have read : scheme? (cleaned s) = some ("http", '/' :: '/' :: cs) := by
      rw [clean]
      rfl
    rw [parse, read]
    rfl
  · have read : scheme? (cleaned s) = some ("https", '/' :: '/' :: cs) := by
      rw [clean]
      rfl
    rw [parse, read]
    rfl

end Url

namespace Config

/-- The host as a URL is read: tabs and line ends drop out, and slashes in front. -/
def hostRead (c : Config) : List Char :=
  (c.host.toList.filter (!Url.isDropped ·)).dropWhile (Url.isSlash true)

def addressed (c : Config) : List Char := c.hostRead ++ ':' :: Text.decimal c.port

theorem cleaned_baseText {c : Config} (web : Url.IsWeb c.scheme) :
    Url.cleaned c.baseText = c.scheme.toList ++ ':' :: '/' :: '/' ::
      (c.host.toList.filter (!Url.isDropped ·) ++ ':' :: Text.decimal c.port) := by
  obtain ⟨⟨letters, first⟩, scheme⟩ := web.letters
  have head : c.baseText.toList = 'h' :: (letters ++ ':' :: '/' :: '/' ::
      (c.host.toList ++ ':' :: Text.decimal c.port)) := by
    rw [toList_baseText, first, List.cons_append]
  obtain ⟨front, last, digits⟩ :=
    (List.eq_nil_or_concat (Text.decimal c.port)).resolve_left (Text.decimal_ne_nil c.port)
  rw [List.concat_eq_append] at digits
  have final : c.baseText.toList =
      c.scheme.toList ++ ':' :: '/' :: '/' :: (c.host.toList ++ ':' :: front) ++ [last] := by
    rw [toList_baseText, digits]
    simp
  -- the text starts with a letter and ends with a digit, so no blanks are cut off
  have digit : Text.isDigit last = true := by
    apply Text.isDigit_of_mem_decimal (n := c.port)
    rw [digits]
    simp
  have shown : 0x20 < last.toNat := Nat.lt_of_lt_of_le (by decide) (Text.isDigit_iff.mp digit).1
  have port : (Text.decimal c.port).filter (!Url.isDropped ·) = Text.decimal c.port := by
    rw [List.filter_eq_self]
    intro d member
    rw [Url.not_isDropped_of_isDigit (Text.isDigit_of_mem_decimal member)]
    rfl
  have mark (d : Char) (rest : List Char) (kept : Url.isDropped d = false) :
      (d :: rest).filter (!Url.isDropped ·) = d :: rest.filter (!Url.isDropped ·) :=
    List.filter_cons_of_pos (by rw [kept]; rfl)
  rw [Url.cleaned_eq head final (by decide) shown, toList_baseText, List.filter_append, scheme,
    mark ':' _ rfl, mark '/' _ rfl, mark '/' _ rfl, List.filter_append, mark ':' _ rfl, port]

theorem parse_baseText {c : Config} (web : Url.IsWeb c.scheme) :
    Url.parse c.baseText = Url.readAuthority c.scheme c.addressed := by
  have stops : ∀ d, (':' :: Text.decimal c.port).head? = some d → Url.isSlash true d = false := by
    intro d first
    cases first
    rfl
  rw [Url.parse_web web (cleaned_baseText web), (Text.takeWhile_append _ _ stops).2]
  rfl

theorem parse_parted {c : Config} (web : Url.IsWeb c.scheme) : Url.parse c.baseText =
    (Url.authority? c.scheme (c.addressed.takeWhile (!Url.endsAuthority true ·))).map fun a =>
      Url.finish c.scheme (some a) (Url.readPathStart c.scheme
        (c.addressed.dropWhile (!Url.endsAuthority true ·))) := by
  rw [parse_baseText web, Url.readAuthority_parted web.special]

theorem port_inside (n : Nat) : Url.Inside (':' :: Text.decimal n) := by
  intro d member
  rcases List.mem_cons.mp member with rfl | digit
  · rfl
  · apply Bool.eq_false_of_not_eq_true
    intro ends
    have other := Url.not_isDigit_of_ends ends
    rw [Text.isDigit_of_mem_decimal digit] at other
    cases other

theorem addressed_inside {c : Config} (inside : Url.Inside c.hostRead) :
    Url.Inside c.addressed := by
  intro d member
  rcases List.mem_append.mp member with host | port
  · exact inside d host
  · exact port_inside c.port d port

theorem addressed_parted {c : Config} (ended : ¬ Url.Inside c.hostRead) :
    c.addressed.takeWhile (!Url.endsAuthority true ·) =
      c.hostRead.takeWhile (!Url.endsAuthority true ·) := by
  rw [addressed, List.takeWhile_append, if_neg]
  -- the port is reached only if the host was taken as a whole
  intro whole
  have all := (List.takeWhile_prefix (!Url.endsAuthority true ·)).eq_of_length whole
  apply ended
  intro d member
  rw [← all] at member
  simpa using List.mem_takeWhile_imp member

theorem mark_mem (c : Config) {mark : Char} (marks : mark = '?' ∨ mark = '#') :
    mark ∈ c.addressed.dropWhile (!Url.endsAuthority true ·) ↔ mark ∈ c.host.toList := by
  have classes : (!Url.endsAuthority true mark) = false ∧ Url.isSlash true mark = false ∧
      (!Url.isDropped mark) = true := by
    rcases marks with rfl | rfl <;> decide
  obtain ⟨ends, slash, kept⟩ := classes
  have port : mark ∉ ':' :: Text.decimal c.port := by
    intro member
    rw [port_inside c.port mark member] at ends
    cases ends
  calc mark ∈ c.addressed.dropWhile (!Url.endsAuthority true ·)
    _ ↔ mark ∈ c.addressed := Url.mem_dropWhile ends
    _ ↔ mark ∈ c.hostRead := by
        rw [addressed, List.mem_append]
        exact or_iff_left port
    _ ↔ mark ∈ c.host.toList.filter (!Url.isDropped ·) := Url.mem_dropWhile slash
    _ ↔ mark ∈ c.host.toList := by
        rw [List.mem_filter]
        exact and_iff_left kept

end Config

namespace Client

theorem ofConfig_of_parse {c : Config} {u : Url} (read : Url.parse c.baseText = .ok u)
    (parted : u.isFlat = false) : ofConfig c = .ok ⟨u, c.secret, c.timeout⟩ := by
  unfold ofConfig
  rw [read]
  dsimp only
  rw [if_neg (by simp [parted])]

/-- How the requests of a client stand to the configuration that it is made from. -/
structure Contacts (c : Config) (client : Client) : Prop where
  port_eq (parts : List String) : Url.Inside c.hostRead →
    (client.url parts).effectivePort? = some c.port
  port_ignored (parts : List String) : ¬ Url.Inside c.hostRead → ∀ port,
    ∃ other, ofConfig { c with port } = .ok other ∧
      (other.url parts).authority = (client.url parts).authority
  bare_iff (parts : List String) :
    (client.url parts).query = none ∧ (client.url parts).fragment = none ↔
      '?' ∉ c.host.toList ∧ '#' ∉ c.host.toList

section

variable {c : Config} {client : Client} (web : Url.IsWeb c.scheme) (made : ofConfig c = .ok client)
include web made

theorem ofConfig_base : ∃ a,
    Url.authority? c.scheme (c.addressed.takeWhile (!Url.endsAuthority true ·)) = .ok a ∧
      client.base = Url.finish c.scheme (some a) (Url.readPathStart c.scheme
        (c.addressed.dropWhile (!Url.endsAuthority true ·))) := by
  have read := (ofConfig_ok made).1
  rw [Config.parse_parted web] at read
  cases authority : Url.authority? c.scheme
      (c.addressed.takeWhile (!Url.endsAuthority true ·)) with
  | error fault =>
      rw [authority] at read
      cases read
  | ok a =>
      rw [authority] at read
      exact ⟨a, rfl, (Except.ok.inj read).symm⟩

theorem ofConfig_port (inside : Url.Inside c.hostRead) (parts : List String) :
    (client.url parts).effectivePort? = some c.port := by
  obtain ⟨a, authority, base⟩ := ofConfig_base web made
  have whole := Config.addressed_inside inside
  rw [whole.parts.1] at authority
  have port := Url.authority?_port web.special whole
    (fun d member => Text.isDigit_of_mem_decimal member) (Text.value?_decimal c.port) authority
  show (client.base.withSegments parts).effectivePort? = some c.port
  rw [Url.withSegments_elsewhere, base]
  exact port

theorem ofConfig_port_ignored (ended : ¬ Url.Inside c.hostRead) (parts : List String) (port : Nat) :
    ∃ other, ofConfig { c with port } = .ok other ∧
      (other.url parts).authority = (client.url parts).authority := by
  obtain ⟨a, authority, base⟩ := ofConfig_base web made
  rw [Config.addressed_parted ended] at authority
  have read := Config.parse_parted (c := { c with port }) web
  rw [Config.addressed_parted (c := { c with port }) ended] at read
  have same : Url.authority? c.scheme
      ((Config.hostRead { c with port }).takeWhile (!Url.endsAuthority true ·)) = .ok a :=
    authority
  rw [same] at read
  refine ⟨_, ofConfig_of_parse read rfl, ?_⟩
  show Url.authority (Url.withSegments _ parts) = (client.base.withSegments parts).authority
  rw [Url.withSegments_elsewhere, Url.withSegments_elsewhere client.base, base]
  rfl

theorem ofConfig_bare_iff (parts : List String) :
    (client.url parts).query = none ∧ (client.url parts).fragment = none ↔
      '?' ∉ c.host.toList ∧ '#' ∉ c.host.toList := by
  obtain ⟨a, _, base⟩ := ofConfig_base web made
  have marks := Url.finish_bare_iff web.special (some a)
    (c.addressed.dropWhile (!Url.endsAuthority true ·))
  show (client.base.withSegments parts).query = none ∧
    (client.base.withSegments parts).fragment = none ↔ _
  rw [Url.withSegments_elsewhere, base, ← c.mark_mem (.inl rfl), ← c.mark_mem (.inr rfl)]
  exact marks

end

/-- The requests of a client go to the configured port unless the host itself ends the authority, and
then the port has no say at all; they have a query or a fragment only if the host does. -/
theorem ofConfig_contacts {c : Config} {client : Client}
    (web : c.scheme = "http" ∨ c.scheme = "https") (made : ofConfig c = .ok client) :
    client.Contacts c where
  port_eq parts inside := ofConfig_port web made inside parts
  port_ignored parts ended port := ofConfig_port_ignored web made ended parts port
  bare_iff parts := ofConfig_bare_iff web made parts

theorem ofConfig_contacts_small : (Client.url
    ⟨⟨"http", some { host := .name "grader.example", port := some 8443 }, .segments false [""], none,
      none⟩, "k", 300000⟩ ["owner", "cs101", "a1"]).effectivePort? = some 8443 := by
  have made : ofConfig ⟨"http", "grader.example", 8443, "k", 300000⟩ = .ok
      ⟨⟨"http", some { host := .name "grader.example", port := some 8443 }, .segments false [""],
        none, none⟩, "k", 300000⟩ := by
    decide +kernel
  have host : (Config.hostRead ⟨"http", "grader.example", 8443, "k", 300000⟩).all
      (!Url.endsAuthority true ·) = true := by
    decide +kernel
  apply (ofConfig_contacts (.inl rfl) made).port_eq
  intro c member
  simpa using List.all_eq_true.mp host c member

/-- A slash at the end of a host without a scheme sends requests to the port of the scheme, and a mark
of a query stays in their addresses. -/
theorem ofConfig_slashed :
    (∃ c client, Config.load? none (Config.surroundings "grader.example/") = .ok c ∧
      c.scheme = "http" ∧ ofConfig c = .ok client ∧
      (client.submission "owner" "user" "token" ⟨"cs101", by decide⟩ none none).url.effectivePort? =
        some 80 ∧ c.port = 5005) ∧
    ∃ c client, Config.load? none (Config.surroundings "grader.example?x") = .ok c ∧
      c.scheme = "http" ∧ ofConfig c = .ok client ∧
      (client.submission "owner" "user" "token" ⟨"cs101", by decide⟩ none none).url.query =
        some "x:5005" := by
  refine ⟨⟨⟨"http", "grader.example/", 5005, "k", 300000⟩,
    ⟨⟨"http", some { host := .name "grader.example" }, .segments false [":5005"], none, none⟩, "k",
      300000⟩, ?_⟩, ⟨⟨"http", "grader.example?x", 5005, "k", 300000⟩,
    ⟨⟨"http", some { host := .name "grader.example" }, .segments false [""], some "x:5005", none⟩,
      "k", 300000⟩, ?_⟩⟩
  · exact ⟨rfl, rfl, by decide +kernel, rfl, rfl⟩
  · exact ⟨rfl, rfl, by decide +kernel, rfl⟩

end Client

end Handin
