import Handin.Client
import Handin.Proofs.Names
import Handin.Proofs.Segments

namespace Handin

namespace Identifier

theorem text_injective : Function.Injective text := by
  rintro ⟨_, _⟩ ⟨_, _⟩ rfl
  rfl

theorem chars (name : Identifier) {c : Char} (member : c ∈ name.text.toList) :
    'A' ≤ c ∧ c ≤ 'Z' ∨ 'a' ≤ c ∧ c ≤ 'z' ∨ '0' ≤ c ∧ c ≤ '9' ∨ c = '_' :=
  (isName_iff.mp name.isName_text).2 c member

theorem notMem (name : Identifier) {c : Char} (other : isNameChar c = false) :
    c ∉ name.text.toList := by
  intro member
  have named := isNameChar_iff.mpr (name.chars member)
  rw [other] at named
  cases named

theorem spellable (name : Identifier) : Url.Spellable name.text where
  ne_empty := (isName_iff.mp name.isName_text).1
  ne_dot same := name.notMem (c := '.') rfl (same ▸ by decide)
  ne_dots same := name.notMem (c := '.') rfl (same ▸ by decide)
  tab_notMem := name.notMem rfl
  newline_notMem := name.notMem rfl
  return_notMem := name.notMem rfl

theorem segment_eq (name : Identifier) (special : Bool) :
    Url.segment special name.text = name.text.toList := by
  rw [Url.segment_eq name.spellable]
  apply Url.percentEncode_eq_self
  intro c member
  constructor
  · have range : 0x20 ≤ c.toNat ∧ c.toNat < 0x7f := by
      rcases name.chars member with ⟨low, high⟩ | ⟨low, high⟩ | ⟨low, high⟩ | rfl
      · have : 65 ≤ c.toNat := low
        have : c.toNat ≤ 90 := high
        omega
      · have : 97 ≤ c.toNat := low
        have : c.toNat ≤ 122 := high
        omega
      · have : 48 ≤ c.toNat := low
        have : c.toNat ≤ 57 := high
        omega
      · decide
    simp only [Url.isControl, Bool.or_eq_false_iff, decide_eq_false_iff_not]
    omega
  · apply Bool.eq_false_of_not_eq_true
    intro encoded
    have none : Url.reserved.all (!isNameChar ·) = true := rfl
    have other := List.all_eq_true.mp none c (Url.mem_reserved encoded)
    exact name.notMem (by simpa using other) member

end Identifier

structure Destination where
  owner : String
  user : String
  token : String
  course : Identifier
  assignment : Option Identifier

namespace Destination

def accounts (d : Destination) : List String := [d.owner, d.user, d.token]

def names (d : Destination) : List Identifier := d.course :: d.assignment.toList

def parts (d : Destination) : List String := d.accounts ++ d.names.map (·.text)

theorem parts_injective {d e : Destination} (same : d.parts = e.parts) : d = e := by
  obtain ⟨owner, rest⟩ := List.cons.inj same
  obtain ⟨user, rest⟩ := List.cons.inj rest
  obtain ⟨token, rest⟩ := List.cons.inj rest
  have names : d.names = e.names :=
    (List.map_inj_right fun _ _ text => Identifier.text_injective text).mp rest
  obtain ⟨course, assigned⟩ := List.cons.inj names
  have assignment : d.assignment = e.assignment := by
    simpa [Option.head?_toList] using congrArg List.head? assigned
  cases d
  cases e
  cases owner
  cases user
  cases token
  cases course
  cases assignment
  rfl

end Destination

namespace Client

theorem ofConfig_ok {config : Config} {c : Client} (made : Client.ofConfig config = .ok c) :
    Url.parse config.baseText = .ok c.base ∧ c.base.isFlat = false := by
  unfold Client.ofConfig at made
  split at made
  · cases made
  · next url read =>
      split at made
      · cases made
      · next parted =>
          cases made
          exact ⟨read, Bool.eq_false_of_not_eq_true parted⟩

def submitted (c : Client) (d : Destination) (files : Option (List String)) : Submission :=
  c.submission d.owner d.user d.token d.course d.assignment files

/-- An address under the client's root: it names free texts and then names, which stand unescaped. -/
structure Addresses (c : Client) (free : List String) (names : List Identifier) (u : Url) : Prop where
  elsewhere : u = { c.base with path := u.path }
  named : u.named? = some (free ++ names.map (·.text))
  unescaped : ∃ front, front.length = free.length ∧
    u.pieces? = some (front ++ names.map (·.text.toList))

/-- The requests of a client are told apart by their addresses. -/
structure Decodable (c : Client) : Prop where
  submitted_addresses (d : Destination) (files : Option (List String)) :
    (∀ s ∈ d.accounts, Url.Spellable s) → c.Addresses d.accounts d.names (c.submitted d files).url
  listing_addresses (owner : String) (course assignment : Identifier) : Url.Spellable owner →
    c.Addresses [owner] [course, assignment] (c.listingRequest owner course assignment).url
  submitted_injective (d e : Destination) (files files' : Option (List String)) :
    (∀ s ∈ d.accounts, Url.Spellable s) → (∀ s ∈ e.accounts, Url.Spellable s) →
    (c.submitted d files).url.text = (c.submitted e files').url.text → d = e
  listing_ne_submitted (owner : String) (course assignment : Identifier) (d : Destination)
    (files : Option (List String)) : Url.Spellable owner → (∀ s ∈ d.accounts, Url.Spellable s) →
    (c.listingRequest owner course assignment).url.text ≠ (c.submitted d files).url.text
  scores_ne_upload (d e : Destination) (files files' : Option (List String)) :
    (∀ s ∈ d.accounts, Url.Spellable s) → (∀ s ∈ e.accounts, Url.Spellable s) →
    d.assignment = none → e.assignment.isSome = true →
    (c.submitted d files).url.text ≠ (c.submitted e files').url.text

theorem submitted_url (c : Client) (d : Destination) (files : Option (List String)) :
    (c.submitted d files).url = c.url (d.accounts ++ d.names.map (·.text)) := by
  obtain ⟨owner, user, token, course, assignment⟩ := d
  cases assignment <;> rfl

theorem spellable_append {free : List String} (spelled : ∀ s ∈ free, Url.Spellable s)
    (names : List Identifier) : ∀ s ∈ free ++ names.map (·.text), Url.Spellable s := by
  intro s member
  rcases List.mem_append.mp member with text | text
  · exact spelled s text
  · obtain ⟨name, _, rfl⟩ := List.mem_map.mp text
    exact name.spellable

section

variable {c : Client} (other : c.base.scheme ≠ "file") (parted : c.base.isFlat = false)
include other parted

theorem url_addresses {free : List String} {names : List Identifier}
    (spelled : ∀ s ∈ free, Url.Spellable s) (filled : names ≠ []) :
    c.Addresses free names (c.url (free ++ names.map (·.text))) := by
  obtain ⟨guarded, set⟩ := Url.withSegments_eq other parted
  have all := spellable_append spelled names
  have some_part : free ++ names.map (·.text) ≠ [] := by simp [filled]
  have url : c.url (free ++ names.map (·.text)) = _ := set _ all
  have path := congrArg Url.path url
  constructor
  case elsewhere => exact Url.withSegments_elsewhere c.base _
  case named => exact Url.named?_shown path some_part all
  case unescaped =>
    have plain : names.map (Url.segment c.base.isSpecial ∘ (·.text)) =
        names.map (·.text.toList) :=
      List.map_congr_left fun name _ => name.segment_eq c.base.isSpecial
    have pieces := Url.pieces?_shown path some_part all
    rw [List.map_append, List.map_map, plain] at pieces
    exact ⟨free.map (Url.segment c.base.isSpecial), List.length_map _, pieces⟩

theorem url_injective {free free' : List String} {names names' : List Identifier}
    (spelled : ∀ s ∈ free, Url.Spellable s) (spelled' : ∀ s ∈ free', Url.Spellable s)
    (filled : names ≠ []) (filled' : names' ≠ [])
    (same : (c.url (free ++ names.map (·.text))).text =
      (c.url (free' ++ names'.map (·.text))).text) :
    free ++ names.map (·.text) = free' ++ names'.map (·.text) :=
  Url.withSegments_injective other parted (by simp [filled]) (by simp [filled'])
    (spellable_append spelled names) (spellable_append spelled' names') same

theorem submitted_injective {d e : Destination} {files files' : Option (List String)}
    (spelled : ∀ s ∈ d.accounts, Url.Spellable s) (spelled' : ∀ s ∈ e.accounts, Url.Spellable s)
    (same : (c.submitted d files).url.text = (c.submitted e files').url.text) : d = e := by
  rw [submitted_url, submitted_url] at same
  exact Destination.parts_injective (url_injective other parted spelled spelled'
    (List.cons_ne_nil _ _) (List.cons_ne_nil _ _) same)

theorem listing_ne_submitted {owner : String} {course assignment : Identifier} {d : Destination}
    {files : Option (List String)} (spelled : Url.Spellable owner)
    (spelled' : ∀ s ∈ d.accounts, Url.Spellable s) :
    (c.listingRequest owner course assignment).url.text ≠ (c.submitted d files).url.text := by
  intro same
  rw [submitted_url] at same
  have listing : (c.listingRequest owner course assignment).url =
      c.url ([owner] ++ [course, assignment].map (·.text)) := rfl
  rw [listing] at same
  have parts := url_injective other parted (by simpa using spelled) spelled' (List.cons_ne_nil _ _)
    (List.cons_ne_nil _ _) same
  have lengths := congrArg List.length parts
  simp [Destination.accounts] at lengths

end

/-- Under `http` and `https` no two requests of a client share an address. -/
theorem ofConfig_decodable {config : Config} {c : Client} (made : Client.ofConfig config = .ok c)
    (web : c.base.scheme = "http" ∨ c.base.scheme = "https") : c.Decodable := by
  have parted := (ofConfig_ok made).2
  have other : c.base.scheme ≠ "file" := by
    rcases web with plain | secure
    · rw [plain]
      decide
    · rw [secure]
      decide
  constructor
  case submitted_addresses =>
    intro d files spelled
    rw [submitted_url]
    exact url_addresses other parted spelled (List.cons_ne_nil _ _)
  case listing_addresses =>
    intro owner course assignment spelled
    exact url_addresses other parted (by simpa using spelled) (List.cons_ne_nil _ _)
  case submitted_injective =>
    intro d e files files' spelled spelled' same
    exact submitted_injective other parted spelled spelled' same
  case listing_ne_submitted =>
    intro owner course assignment d files spelled spelled'
    exact listing_ne_submitted other parted spelled spelled'
  case scores_ne_upload =>
    intro d e files files' spelled spelled' scores upload same
    have one := submitted_injective other parted spelled spelled' same
    rw [← one, scores] at upload
    cases upload

theorem ofConfig_decodable_small :
    (⟨⟨"http", some { host := .name "grader.example", port := some 8443 }, .segments false [""], none,
      none⟩, "k", 300000⟩ : Client).Decodable := by
  have made : ofConfig ⟨"http", "grader.example", 8443, "k", 300000⟩ = .ok
      ⟨⟨"http", some { host := .name "grader.example", port := some 8443 }, .segments false [""],
        none, none⟩, "k", 300000⟩ := by
    decide +kernel
  exact ofConfig_decodable made (.inl rfl)

end Client

end Handin
