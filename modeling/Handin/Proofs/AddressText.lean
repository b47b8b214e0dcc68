import Handin.Proofs.Contact
import Handin.Proofs.HostText

/-! The text of a web address: it has no space in it and no other address has it, whatever the address
was read from and whatever its path is set to. -/

namespace Handin.Url

open Text

theorem append_inj_of_mark {mark : Char} {front front' back back' : String}
    (clean : mark ∉ front.toList) (clean' : mark ∉ front'.toList)
    (begins : ∀ c, back.toList.head? = some c → c = mark)
    (begins' : ∀ c, back'.toList.head? = some c → c = mark)
    (same : front ++ back = front' ++ back') : front = front' ∧ back = back' := by
  have cut {front back : String} (clean : mark ∉ front.toList)
      (begins : ∀ c, back.toList.head? = some c → c = mark) :
      (front ++ back).toList.takeWhile (· != mark) = front.toList ∧
        (front ++ back).toList.dropWhile (· != mark) = back.toList := by
    have kept : ∀ c ∈ front.toList, (c != mark) = true := by
      intro c member
      have other : c ≠ mark := fun same => clean (same ▸ member)
      simpa using other
    have stops : ∀ c, back.toList.head? = some c → (c != mark) = false := by
      intro c first
      rw [begins c first]
      exact bne_self_eq_false mark
    have parted := takeWhile_append (· != mark) front.toList stops
    rw [String.toList_append]
    rwa [List.takeWhile_eq_self_iff.mpr kept, List.dropWhile_eq_nil_iff.mpr kept] at parted
  have left := cut clean begins
  have right := cut clean' begins'
  rw [same] at left
  exact ⟨String.toList_inj.mp (left.1.symm.trans right.1),
    String.toList_inj.mp (left.2.symm.trans right.2)⟩

section

variable {mark : String} {m : Char} (single : mark.toList = [m])
include single

theorem optionalText_injective {t t' : Option String}
    (same : optionalText mark t = optionalText mark t') : t = t' := by
  have chars := congrArg String.toList same
  cases t with
  | none =>
      cases t' with
      | none => rfl
      | some => simp [optionalText, single] at chars
  | some =>
      cases t' with
      | none => simp [optionalText, single] at chars
      | some =>
          simp only [optionalText, String.toList_append] at chars
          exact congrArg some (String.toList_inj.mp (List.append_cancel_left chars))

theorem begins_append (rest : String) (c : Char)
    (first : (mark ++ rest).toList.head? = some c) : c = m := by
  rw [String.toList_append, single] at first
  exact (Option.some.inj first).symm

theorem optionalText_begins (t : Option String) (c : Char)
    (first : (optionalText mark t).toList.head? = some c) : c = m := by
  cases t with
  | none => cases first
  | some s => exact begins_append single s c first

theorem optional_inj_of_mark {front front' : String} {t t' : Option String}
    (clean : m ∉ front.toList) (clean' : m ∉ front'.toList)
    (same : front ++ optionalText mark t = front' ++ optionalText mark t') :
    front = front' ∧ t = t' := by
  obtain ⟨front, back⟩ := append_inj_of_mark clean clean' (optionalText_begins single t)
    (optionalText_begins single t') same
  exact ⟨front, optionalText_injective single back⟩

theorem notMem_optionalText {t : Option String} {c : Char} (other : c ≠ m)
    (clean : ∀ s ∈ t, c ∉ s.toList) : c ∉ (optionalText mark t).toList := by
  cases t with
  | none => exact nofun
  | some s =>
      simp only [optionalText, String.toList_append, single, List.mem_append, List.mem_singleton,
        not_or]
      exact ⟨other, clean s rfl⟩

end

/-- A text in which some characters are encoded. -/
def Encoded (special : Char → Bool) (s : String) : Prop :=
  ∃ cs, s = String.ofList (percentEncode special cs)

theorem Encoded.notMem {special : Char → Bool} {s : String} (encoded : Encoded special s) {c : Char}
    (barred : special c = true) (sign : c ≠ '%') (digits : ∀ n < 16, upperDigit n ≠ c) :
    c ∉ s.toList := by
  obtain ⟨cs, rfl⟩ := encoded
  rw [String.toList_ofList]
  exact notMem_percentEncode barred sign digits cs

def Authority.userInfo (a : Authority) : String := a.username ++ optionalText ":" a.password

theorem Authority.userText_eq (a : Authority) :
    a.userText = if a.userInfo = "" then "" else a.userInfo ++ "@" := by
  unfold userText userInfo
  cases a.password with
  | none => simp [optionalText]
  | some p => simp [optionalText, String.append_assoc]

def Authority.portText (a : Authority) : Option String := a.port.map fun n => String.ofList (decimal n)

theorem Authority.hostText_eq (a : Authority) :
    a.hostText = a.host.text ++ optionalText ":" a.portText := by
  unfold hostText portText
  cases a.port <;> rfl

theorem Authority.isDigit_of_mem_portText {a : Authority} {port : String} (given : port ∈ a.portText)
    {c : Char} (member : c ∈ port.toList) : isDigit c = true := by
  obtain ⟨n, _, rfl⟩ := Option.map_eq_some_iff.mp given
  rw [String.toList_ofList] at member
  exact isDigit_of_mem_decimal member

theorem Authority.portText_injective {a b : Authority} (same : a.portText = b.portText) :
    a.port = b.port :=
  Option.map_injective (fun _ _ text => numeral_inj (by decide) (by decide)
    (String.ofList_inj.mp text)) same

/-- What an authority is once it has been read. -/
structure Authority.Settled (a : Authority) : Prop where
  username : Encoded inUserInfo a.username
  password : ∀ p ∈ a.password, Encoded inUserInfo p
  host : a.host.Settled

theorem readUser_encoded (cs : List Char) : Encoded inUserInfo (readUser cs).1 ∧
    ∀ p ∈ (readUser cs).2, Encoded inUserInfo p := by
  unfold readUser
  split
  · exact ⟨⟨_, rfl⟩, fun p given => ⟨_, (Option.some.inj given).symm⟩⟩
  · exact ⟨⟨_, rfl⟩, nofun⟩

theorem authority?_settled {scheme : String} (special : isSpecialScheme scheme = true)
    {cs : List Char} {a : Authority} (read : authority? scheme cs = .ok a) : a.Settled := by
  unfold authority? at read
  generalize (splitUser? true cs).getD ([], cs) = parted at read
  obtain ⟨user, rest⟩ := parted
  obtain ⟨⟨host, port, left⟩, found, made⟩ := bind_ok read
  obtain ⟨username, password⟩ := readUser_encoded user
  unfold withUser at made
  dsimp only at made
  split at made
  · cases made
  · cases made
    exact ⟨username, password, Host.settled_of_ofName (readHost_ok special found).1⟩

namespace Authority

variable {a : Authority} (settled : a.Settled)
include settled

theorem notMem_userInfo {c : Char} (barred : inUserInfo c = true) (sign : c ≠ '%')
    (digits : ∀ n < 16, upperDigit n ≠ c) (other : c ≠ ':') : c ∉ a.userInfo.toList := by
  rw [userInfo, String.toList_append, List.mem_append, not_or]
  exact ⟨settled.username.notMem barred sign digits,
    notMem_optionalText rfl other fun p given => (settled.password p given).notMem barred sign digits⟩

theorem notMem_hostText {c : Char} (forbidden : Domain.isForbidden c = true)
    (other : c ∉ ['[', ':', ']']) : c ∉ a.hostText.toList := by
  have colon : c ≠ ':' := by
    rintro rfl
    exact other (by decide)
  rw [hostText_eq, String.toList_append, List.mem_append, not_or]
  refine ⟨fun member => other (Host.forbidden_mem_text settled.host forbidden member).2,
    notMem_optionalText rfl colon fun port given member => ?_⟩
  have value := digitValue?_of_isDigit (isDigit_of_mem_portText given member)
  rw [Domain.not_isForbidden_of_digit (by rw [value]; rfl)] at forbidden
  cases forbidden

theorem notMem_text {c : Char} (mark : c ∈ [' ', '/', '?', '#']) : c ∉ a.text.toList := by
  have barred : inUserInfo c = true ∧ Domain.isForbidden c = true ∧ c ∉ ['[', ':', ']'] ∧
      c ≠ '%' ∧ c ≠ ':' ∧ c ≠ '@' ∧ ∀ n < 16, upperDigit n ≠ c := by
    simp only [List.mem_cons, List.not_mem_nil, or_false] at mark
    rcases mark with rfl | rfl | rfl | rfl <;> decide
  obtain ⟨encoded, forbidden, other, sign, colon, at', digits⟩ := barred
  have user := notMem_userInfo settled encoded sign digits colon
  rw [text, String.toList_append, List.mem_append, not_or, userText_eq]
  refine ⟨?_, notMem_hostText settled forbidden other⟩
  split
  · exact nofun
  · rw [String.toList_append, List.mem_append, not_or]
    exact ⟨user, by simpa using at'⟩

theorem at_notMem_userInfo : '@' ∉ a.userInfo.toList :=
  notMem_userInfo settled rfl (by decide) (by decide) (by decide)

theorem at_notMem_hostText : '@' ∉ a.hostText.toList :=
  notMem_hostText settled rfl (by decide)

theorem text_parted {b : Authority} (settled' : b.Settled) (same : a.text = b.text) :
    a.userInfo = b.userInfo ∧ a.hostText = b.hostText := by
  have absent {a b : Authority} (settled : a.Settled) (none : a.userInfo = "")
      (same : a.text = b.text) : b.userInfo = "" := by
    by_contra some
    rw [text, text, userText_eq, userText_eq, if_pos none, if_neg some, String.empty_append] at same
    exact at_notMem_hostText settled (by rw [same]; simp)
  by_cases none : a.userInfo = ""
  · have none' := absent settled none same
    rw [text, text, userText_eq, userText_eq, if_pos none, if_pos none'] at same
    exact ⟨none.trans none'.symm, by simpa using same⟩
  · have some' : b.userInfo ≠ "" := fun none' => none (absent settled' none' same.symm)
    rw [text, text, userText_eq, userText_eq, if_neg none, if_neg some', String.append_assoc,
      String.append_assoc] at same
    obtain ⟨user, host⟩ := append_inj_of_mark (at_notMem_userInfo settled)
      (at_notMem_userInfo settled') (begins_append rfl _) (begins_append rfl _) same
    exact ⟨user, (String.append_right_inj "@").mp host⟩

theorem userInfo_injective {b : Authority} (settled' : b.Settled)
    (same : a.userInfo = b.userInfo) : a.username = b.username ∧ a.password = b.password :=
  have colon {a : Authority} (settled : a.Settled) : ':' ∉ a.username.toList :=
    settled.username.notMem rfl (by decide) (by decide)
  optional_inj_of_mark rfl (colon settled) (colon settled') same

theorem bracket_mem_hostText_iff :
    '[' ∈ a.hostText.toList ↔ ∃ groups, a.host = .ipv6 groups := by
  have digits : '[' ∉ (optionalText ":" a.portText).toList := by
    apply notMem_optionalText rfl (by decide)
    intro port given member
    cases isDigit_of_mem_portText given member
  rw [hostText_eq, String.toList_append, List.mem_append, or_iff_left digits,
    Host.bracket_mem_text_iff settled.host]

theorem hostText_parted {b : Authority} (settled' : b.Settled) (same : a.hostText = b.hostText) :
    a.host.text = b.host.text ∧ a.portText = b.portText := by
  have kind : (∃ groups, a.host = .ipv6 groups) ↔ ∃ groups, b.host = .ipv6 groups := by
    rw [← bracket_mem_hostText_iff settled, same, bracket_mem_hostText_iff settled']
  rw [hostText_eq, hostText_eq] at same
  by_cases six : ∃ groups, a.host = .ipv6 groups
  · -- colons of the address are no mark of the port, but its closing bracket is
    obtain ⟨groups', six'⟩ := kind.mp six
    obtain ⟨groups, six⟩ := six
    rw [six, six', Host.text_ipv6, Host.text_ipv6, String.append_assoc, String.append_assoc] at same
    obtain ⟨opened, rest⟩ := append_inj_of_mark (Host.closing_notMem groups)
      (Host.closing_notMem groups') (begins_append rfl _) (begins_append rfl _) same
    rw [six, six', Host.text_ipv6, Host.text_ipv6, opened]
    exact ⟨rfl, optionalText_injective rfl ((String.append_right_inj "]").mp rest)⟩
  · have clean {a : Authority} (settled : a.Settled) (other : ¬ ∃ groups, a.host = .ipv6 groups) :
        ':' ∉ a.host.text.toList :=
      fun member => other (Host.forbidden_mem_text settled.host rfl member).1
    exact optional_inj_of_mark rfl (clean settled six) (clean settled' (mt kind.mpr six)) same

theorem hostText_injective {b : Authority} (settled' : b.Settled)
    (same : a.hostText = b.hostText) : a.host = b.host ∧ a.port = b.port := by
  obtain ⟨host, port⟩ := hostText_parted settled settled' same
  exact ⟨Host.text_injective settled.host settled'.host host, portText_injective port⟩

theorem text_injective {b : Authority} (settled' : b.Settled) (same : a.text = b.text) : a = b := by
  obtain ⟨user, host⟩ := text_parted settled settled' same
  obtain ⟨username, password⟩ := userInfo_injective settled settled' user
  obtain ⟨host, port⟩ := hostText_injective settled settled' host
  cases a
  cases b
  simp only at username password host port
  rw [username, password, host, port]

end Authority

/-- What a web address is once it has been read, besides its segments. -/
structure Settled (u : Url) : Prop where
  web : IsWeb u.scheme
  authority : ∃ a, u.authority = some a ∧ a.Settled
  path : ∃ list, u.path = .segments false list
  query : ∀ q ∈ u.query, Encoded inSpecialQuery q
  fragment : ∀ f ∈ u.fragment, Encoded inFragment f

theorem readTail_encoded {special : Bool} (is : special = true) (cs : List Char) :
    (∀ q ∈ (readTail special cs).1, Encoded inSpecialQuery q) ∧
      ∀ f ∈ (readTail special cs).2, Encoded inFragment f := by
  have query (cs : List Char) : ∀ q ∈ some (String.ofList (percentEncode inSpecialQuery cs)),
      Encoded inSpecialQuery q :=
    fun q given => ⟨cs, (Option.some.inj given).symm⟩
  have fragment (cs : List Char) : ∀ f ∈ some (String.ofList (percentEncode inFragment cs)),
      Encoded inFragment f :=
    fun f given => ⟨cs, (Option.some.inj given).symm⟩
  have absent (special : Char → Bool) : ∀ s ∈ (none : Option String), Encoded special s := by
    intro s given
    cases given
  subst is
  unfold readTail
  split
  · dsimp only
    split
    · exact ⟨query _, absent _⟩
    · exact ⟨query _, fragment _⟩
  · exact ⟨absent _, fragment _⟩
  · exact ⟨absent _, absent _⟩

theorem readAuthority_settled {scheme : String} (web : IsWeb scheme) {cs : List Char} {u : Url}
    (read : readAuthority scheme cs = .ok u) : u.Settled := by
  rw [readAuthority_parted web.special] at read
  cases found : authority? scheme (cs.takeWhile (!endsAuthority true ·)) with
  | error fault =>
      rw [found] at read
      cases read
  | ok a =>
      rw [found] at read
      cases read
      have tail := readTail_encoded web.special
        (readPathStart scheme (cs.dropWhile (!endsAuthority true ·))).2
      exact ⟨web, ⟨a, rfl, authority?_settled web.special found⟩, ⟨_, rfl⟩, tail.1, tail.2⟩

theorem readFile_scheme {cs : List Char} {u : Url} (read : readFile cs = .ok u) :
    u.scheme = "file" := by
  unfold readFile at read
  dsimp only at read
  split at read
  · split at read
    · cases read
      rfl
    · split at read
      · cases read
        rfl
      · obtain ⟨host, _, made⟩ := bind_ok read
        cases made
        rfl
  · cases read
    rfl

theorem readAuthority_scheme {scheme : String} {cs : List Char} {u : Url}
    (read : readAuthority scheme cs = .ok u) : u.scheme = scheme := by
  unfold readAuthority at read
  dsimp only at read
  -- with a user and without, the rest is the same
  split at read
  all_goals
    split at read
    · cases read
    · obtain ⟨⟨host, port, rest⟩, _, made⟩ := bind_ok read
      dsimp only at made
      split at made
      · cases made
      · cases made
        rfl

theorem readOther_scheme {scheme : String} {cs : List Char} {u : Url}
    (read : readOther scheme cs = .ok u) : u.scheme = scheme := by
  unfold readOther at read
  split at read
  · exact readAuthority_scheme read
  · cases read
    rfl
  · cases read
    rfl

theorem parse_settled {s : String} {u : Url} (read : parse s = .ok u) (web : IsWeb u.scheme) :
    u.Settled := by
  unfold parse at read
  split at read
  · next scheme rest _ =>
      unfold readWhole at read
      split at read
      · rw [readFile_scheme read] at web
        rcases web with other | other <;> exact absurd other (by decide)
      · split at read
        · rw [readAuthority_scheme read] at web
          exact readAuthority_settled web read
        · next plain =>
            rw [← readOther_scheme read] at plain
            exact absurd web.special plain
  · cases read

def Segments (list : List String) : Prop := ∀ s ∈ list, Encoded (inPiece true) s

theorem Segments.concat {list : List String} (segments : Segments list) {s : String}
    (last : Encoded (inPiece true) s) : Segments (list ++ [s]) := by
  intro t member
  rcases List.mem_append.mp member with inside | same
  · exact segments t inside
  · rw [List.mem_singleton.mp same]
    exact last

theorem encoded_empty (special : Char → Bool) : Encoded special "" := ⟨[], rfl⟩

theorem Segments.pop {list : List String} (segments : Segments list) : Segments (pop list) := by
  unfold Url.pop
  split
  · exact segments
  · exact fun s member => segments s ((List.dropLast_sublist list).subset member)

theorem Segments.begun {list : List String} (segments : Segments list) : Segments (begun list) := by
  unfold Url.begun
  split
  · exact nofun
  · exact segments

theorem Segments.push {scheme : String} (web : IsWeb scheme) {list : List String}
    (segments : Segments list) (s : String) : Segments (push scheme list s) := by
  have segment : Encoded (inPiece true) (String.ofList (segment (isSpecialScheme scheme) s)) := by
    rw [web.special]
    exact ⟨_, rfl⟩
  have other : scheme ≠ "file" := by
    rcases web with rfl | rfl <;> decide
  have kept : Segments (if list = [""] then [] else list) := segments.begun
  unfold Url.push
  dsimp only
  generalize (if list = [""] then [] else list) = front at kept ⊢
  split
  case isTrue => exact segments
  case isFalse =>
    split
    case isTrue => exact kept.pop.concat (encoded_empty _)
    case isFalse =>
      split
      case isTrue => exact kept.concat (encoded_empty _)
      case isFalse =>
        rw [if_neg fun drive => other drive.1]
        exact kept.concat segment

theorem Segments.foldl_push {scheme : String} (web : IsWeb scheme) {list : List String}
    (segments : Segments list) (parts : List String) :
    Segments (parts.foldl (Url.push scheme) list) := by
  induction parts generalizing list with
  | nil => exact segments
  | cons s rest ih => exact ih (segments.push web s)

/-- What a web address is once its path has been set. -/
structure Addressed (u : Url) : Prop where
  settled : u.Settled
  path : ∃ list, u.path = .segments false list ∧ list ≠ [] ∧ Segments list

theorem Settled.withSegments {u : Url} (settled : u.Settled) (parts : List String) :
    (u.withSegments parts).Addressed := by
  obtain ⟨before, path⟩ := settled.path
  obtain ⟨list, cleared, segments⟩ : ∃ list,
      u.path.cleared = .segments false list ∧ Segments list := by
    rw [path]
    cases before with
    | nil => exact ⟨[], rfl, nofun⟩
    | cons => exact ⟨[""], rfl, fun s member => List.mem_singleton.mp member ▸ encoded_empty _⟩
  have set : u.withSegments parts =
      { u with path := .segments false ((parts ++ [""]).foldl (push u.scheme) list) } := by
    rw [Url.withSegments, cleared]
  rw [set]
  -- the segment at the end is there even if no other is
  have filled : (parts ++ [""]).foldl (push u.scheme) list ≠ [] := by
    rw [List.foldl_append, List.foldl_cons, List.foldl_nil, push_empty]
    simp
  exact ⟨{ settled with path := ⟨_, rfl⟩ }, _, rfl, filled,
    segments.foldl_push settled.web (parts ++ [""])⟩

theorem Segments.notMem_segmentsText {list : List String} (segments : Segments list) {c : Char}
    (mark : c ∈ [' ', '?', '#']) : c ∉ (segmentsText list).toList := by
  have barred : inPiece true c = true ∧ c ≠ '%' ∧ c ≠ '/' ∧ ∀ n < 16, upperDigit n ≠ c := by
    simp only [List.mem_cons, List.not_mem_nil, or_false] at mark
    rcases mark with rfl | rfl | rfl <;> decide
  obtain ⟨encoded, sign, slash, digits⟩ := barred
  rw [toList_segmentsText]
  intro member
  obtain ⟨s, inside, here⟩ := List.mem_flatMap.mp member
  rcases List.mem_cons.mp here with first | later
  · exact slash first
  · exact (segments s inside).notMem encoded sign digits later

theorem segmentsText_begins {list : List String} (filled : list ≠ []) (c : Char)
    (first : (segmentsText list).toList.head? = some c) : c = '/' := by
  rw [toList_segmentsText] at first
  cases list with
  | nil => exact absurd rfl filled
  | cons s rest => exact (Option.some.inj first).symm

theorem Segments.text_injective {list list' : List String} (filled : list ≠ [])
    (filled' : list' ≠ []) (segments : Segments list) (segments' : Segments list')
    (same : segmentsText list = segmentsText list') : list = list' := by
  have cut {list : List String} (filled : list ≠ []) (segments : Segments list) :
      (segmentsText list).toList.tail.splitOn '/' = list.map String.toList := by
    have clean : ∀ piece ∈ list.map String.toList, '/' ∉ piece := by
      intro piece member
      obtain ⟨s, inside, rfl⟩ := List.mem_map.mp member
      exact (segments s inside).notMem rfl (by decide) (by decide)
    have pieces : list.map String.toList ≠ [] := by simpa using filled
    have text : (segmentsText list).toList =
        '/' :: ['/'].intercalate (list.map String.toList) := by
      rw [toList_segmentsText, ← flatMap_mark '/' pieces, List.flatMap_map]
    rw [text, List.tail_cons, List.splitOn_intercalate '/' clean pieces]
  have pieces := cut filled segments
  rw [same, cut filled' segments'] at pieces
  exact ((List.map_inj_right fun _ _ chars => String.toList_inj.mp chars).mp pieces).symm

def front (u : Url) : String := u.rootText ++ u.path.text

theorem text_eq (u : Url) :
    u.text = u.front ++ optionalText "?" u.query ++ optionalText "#" u.fragment := by
  simp only [text, tailText, front, String.append_assoc]

namespace Addressed

variable {u : Url} (addressed : u.Addressed)
include addressed

theorem notMem_front {c : Char} (mark : c ∈ [' ', '?', '#']) : c ∉ u.front.toList := by
  obtain ⟨a, given, settled⟩ := addressed.settled.authority
  obtain ⟨list, path, _, segments⟩ := addressed.path
  have scheme : c ∉ u.scheme.toList ∧ c ≠ ':' ∧ c ≠ '/' := by
    simp only [List.mem_cons, List.not_mem_nil, or_false] at mark
    rcases addressed.settled.web with web | web <;> rw [web] <;>
      rcases mark with rfl | rfl | rfl <;> decide
  have authority := Authority.notMem_text settled (c := c) (by grind)
  have segments := segments.notMem_segmentsText mark
  simp [front, rootText, authorityText, given, path, Path.text, scheme, authority, segments]

theorem notMem_query {c : Char} (mark : c ∈ [' ', '#']) :
    c ∉ (optionalText "?" u.query).toList := by
  have barred : inSpecialQuery c = true ∧ c ≠ '%' ∧ c ≠ '?' ∧ ∀ n < 16, upperDigit n ≠ c := by
    simp only [List.mem_cons, List.not_mem_nil, or_false] at mark
    rcases mark with rfl | rfl <;> decide
  obtain ⟨encoded, sign, other, digits⟩ := barred
  exact notMem_optionalText rfl other fun q given =>
    (addressed.settled.query q given).notMem encoded sign digits

theorem space_notMem_text : ' ' ∉ u.text.toList := by
  have fragment : ' ' ∉ (optionalText "#" u.fragment).toList :=
    notMem_optionalText rfl (by decide) fun f given =>
      (addressed.settled.fragment f given).notMem rfl (by decide) (by decide)
  rw [text_eq]
  simp only [String.toList_append, List.mem_append, not_or]
  exact ⟨⟨addressed.notMem_front (by decide), addressed.notMem_query (by decide)⟩, fragment⟩

theorem text_parted {v : Url} (addressed' : v.Addressed) (same : u.text = v.text) :
    u.front = v.front ∧ u.query = v.query ∧ u.fragment = v.fragment := by
  have bare {u : Url} (addressed : u.Addressed) :
      '#' ∉ (u.front ++ optionalText "?" u.query).toList := by
    rw [String.toList_append, List.mem_append, not_or]
    exact ⟨addressed.notMem_front (by decide), addressed.notMem_query (by decide)⟩
  rw [text_eq, text_eq] at same
  obtain ⟨same, fragment⟩ := optional_inj_of_mark rfl (bare addressed) (bare addressed') same
  obtain ⟨front, query⟩ := optional_inj_of_mark rfl (addressed.notMem_front (by decide))
    (addressed'.notMem_front (by decide)) same
  exact ⟨front, query, fragment⟩

theorem front_parted {v : Url} (addressed' : v.Addressed) (same : u.front = v.front) :
    u.scheme = v.scheme ∧ u.authority = v.authority ∧ u.path = v.path := by
  obtain ⟨a, given, settled⟩ := addressed.settled.authority
  obtain ⟨b, given', settled'⟩ := addressed'.settled.authority
  obtain ⟨list, path, filled, segments⟩ := addressed.path
  obtain ⟨list', path', filled', segments'⟩ := addressed'.path
  have colon {u : Url} (web : IsWeb u.scheme) : ':' ∉ u.scheme.toList := by
    rcases web with web | web <;> rw [web] <;> decide
  have parts {u : Url} {a : Authority} {list : List String} (given : u.authority = some a)
      (path : u.path = .segments false list) :
      u.front = u.scheme ++ (":" ++ ("//" ++ (a.text ++ segmentsText list))) := by
    simp [front, rootText, authorityText, given, path, Path.text, String.append_assoc]
  rw [parts given path, parts given' path'] at same
  obtain ⟨scheme, rest⟩ := append_inj_of_mark (colon addressed.settled.web)
    (colon addressed'.settled.web) (begins_append rfl _) (begins_append rfl _) same
  have rest := (String.append_right_inj "//").mp ((String.append_right_inj ":").mp rest)
  obtain ⟨authority, segments_eq⟩ := append_inj_of_mark
    (Authority.notMem_text settled (by decide)) (Authority.notMem_text settled' (by decide))
    (segmentsText_begins filled) (segmentsText_begins filled') rest
  have authority := Authority.text_injective settled settled' authority
  have list_eq := Segments.text_injective filled filled' segments segments' segments_eq
  rw [given, given', path, path', authority, list_eq]
  exact ⟨scheme, rfl, rfl⟩

theorem text_injective {v : Url} (addressed' : v.Addressed) (same : u.text = v.text) : u = v := by
  obtain ⟨front, query, fragment⟩ := addressed.text_parted addressed' same
  obtain ⟨scheme, authority, path⟩ := addressed.front_parted addressed' front
  cases u
  cases v
  simp only at scheme authority path query fragment
  rw [scheme, authority, path, query, fragment]

end Addressed

end Handin.Url

namespace Handin.Client

theorem url_addressed {config : Config} {c : Client} (made : ofConfig config = .ok c)
    (web : Url.IsWeb c.base.scheme) (parts : List String) : (c.url parts).Addressed :=
  (Url.parse_settled (ofConfig_ok made).1 web).withSegments parts

end Handin.Client
