import Handin.Proofs.Layers
import Handin.Proofs.Words

/-! A secret in a file counts as if it were set directly: loading takes the first line of the file,
without the blanks around it, and asks for nothing else in the file. -/

namespace Handin

namespace Text

structure IsTight (cs : List Char) : Prop where
  head : ∀ c ∈ cs.head?, isBlank c = false
  last : ∀ c ∈ cs.getLast?, isBlank c = false

def Trimmed (line cs : List Char) : Prop :=
  IsTight cs ∧ ∃ before after, AllBlank before ∧ AllBlank after ∧ line = before ++ cs ++ after

/-- A line that a text begins with: the text ends with it, or a line end and any other text come after
it. -/
inductive FirstLine (line : List Char) : List Char → Prop
  | alone : '\n' ∉ line → FirstLine line line
  | feed (more : List Char) : '\n' ∉ line → FirstLine line (line ++ '\n' :: more)
  | returnFeed (more : List Char) : '\n' ∉ line → FirstLine line (line ++ '\r' :: '\n' :: more)

variable {cs line text : List Char}

theorem FirstLine.one_line (first : FirstLine line text) : '\n' ∉ line := by
  cases first with
  | alone one_line => exact one_line
  | feed more one_line => exact one_line
  | returnFeed more one_line => exact one_line

theorem AllBlank.append {before after : List Char} (blank : AllBlank before)
    (blank' : AllBlank after) : AllBlank (before ++ after) :=
  List.forall_mem_append.mpr ⟨blank, blank'⟩

theorem trimLeft_eq_nil (blank : AllBlank cs) : trimLeft cs = [] :=
  List.dropWhile_eq_nil_iff.mpr blank

theorem head_trimLeft (cs : List Char) : ∀ c ∈ (trimLeft cs).head?, isBlank c = false := by
  intro c first
  have stops := List.head?_dropWhile_not isBlank cs
  rw [trimLeft] at first
  rw [Option.mem_def.mp first] at stops
  simpa using stops

theorem trim_of_trimmed (trimmed : Trimmed line cs) : trim line = cs := by
  obtain ⟨⟨head, last⟩, before, after, blank, blank', rfl⟩ := trimmed
  cases cs with
  | nil =>
      have all : AllBlank (before ++ [] ++ after) := by
        rw [List.append_nil]
        exact blank.append blank'
      rw [trim, trimLeft_eq_nil all]
      rfl
  | cons c rest =>
      have left : trimLeft (before ++ (c :: rest) ++ after) = (c :: rest) ++ after := by
        rw [List.append_assoc]
        exact trimLeft_append blank head
      have reversed : ((c :: rest) ++ after).reverse = after.reverse ++ (c :: rest).reverse :=
        List.reverse_append
      have blank_reversed : AllBlank after.reverse := fun x member =>
        blank' x (List.mem_reverse.mp member)
      rw [trim, left, trimRight, reversed, trimLeft_append blank_reversed, List.reverse_reverse]
      rwa [List.head?_reverse]

theorem trimmed_trim (line : List Char) : Trimmed line (trim line) := by
  obtain ⟨before, blank, front⟩ := exists_trimLeft line
  obtain ⟨after, blank', back⟩ := exists_trimLeft (trimLeft line).reverse
  have rest : trimLeft line = trim line ++ after.reverse := by
    have reversed := congrArg List.reverse back
    rwa [List.reverse_reverse, List.reverse_append] at reversed
  refine ⟨⟨?_, ?_⟩, before, after.reverse, blank, ?_, ?_⟩
  · intro c head
    apply head_trimLeft line c
    rw [rest, List.head?_append, Option.mem_def.mp head]
    rfl
  · intro c final
    apply head_trimLeft (trimLeft line).reverse c
    rwa [trim, trimRight, List.getLast?_reverse] at final
  · exact fun c member => blank' c (List.mem_reverse.mp member)
  · rw [List.append_assoc, ← rest]
    exact front

theorem Trimmed.return (trimmed : Trimmed line cs) : Trimmed (line ++ ['\r']) cs := by
  obtain ⟨tight, before, after, blank, blank', rfl⟩ := trimmed
  refine ⟨tight, before, after ++ ['\r'], blank, blank'.append ?_, by simp⟩
  exact List.forall_mem_singleton.mpr rfl

theorem firstLine_append {front : List Char} (one_line : '\n' ∉ front) (more : List Char) :
    firstLine front = front ∧ firstLine (front ++ '\n' :: more) = front := by
  have passed : ∀ c ∈ front, (c != '\n') = true := by
    intro c member
    have other : c ≠ '\n' := fun same => one_line (same ▸ member)
    simpa using other
  have own : firstLine front = front := List.takeWhile_eq_self_iff.mpr passed
  have stops : ∀ c, ('\n' :: more).head? = some c → (c != '\n') = false := by
    intro c first
    cases first
    rfl
  exact ⟨own, (takeWhile_append (· != '\n') front stops).1.trans own⟩

theorem firstLine_spec (text : List Char) : FirstLine (firstLine text) text := by
  have one_line : '\n' ∉ firstLine text := by
    intro member
    have passed := List.mem_takeWhile_imp member
    cases passed
  have parted : firstLine text ++ text.dropWhile (· != '\n') = text :=
    List.takeWhile_append_dropWhile
  cases rest : text.dropWhile (· != '\n') with
  | nil =>
      rw [rest, List.append_nil] at parted
      have alone := FirstLine.alone one_line
      rwa [parted] at alone ⊢
  | cons c more =>
      have stops := List.head?_dropWhile_not (· != '\n') text
      rw [rest] at stops
      have feed : c = '\n' := by simpa using stops
      rw [rest, feed] at parted
      have whole := FirstLine.feed more one_line
      rwa [parted] at whole

/-- A carriage return before the line feed is one of the blanks. -/
theorem trim_firstLine_iff :
    trim (firstLine text) = cs ↔ ∃ line, FirstLine line text ∧ Trimmed line cs := by
  constructor
  · rintro rfl
    exact ⟨firstLine text, firstLine_spec text, trimmed_trim _⟩
  · rintro ⟨line, first, trimmed⟩
    cases first with
    | alone one_line =>
        rw [(firstLine_append one_line []).1]
        exact trim_of_trimmed trimmed
    | feed more one_line =>
        rw [(firstLine_append one_line more).2]
        exact trim_of_trimmed trimmed
    | returnFeed more one_line =>
        have one_line' : '\n' ∉ line ++ ['\r'] := by simpa using one_line
        have whole : line ++ '\r' :: '\n' :: more = (line ++ ['\r']) ++ '\n' :: more := by simp
        rw [whole, (firstLine_append one_line' more).2]
        exact trim_of_trimmed trimmed.return

end Text

namespace Config

def HoldsSecret (text secret : String) : Prop :=
  ∃ line, Text.FirstLine line text.toList ∧ Text.Trimmed line secret.toList

theorem secretOf_eq_iff {text secret : String} : secretOf text = secret ↔ HoldsSecret text secret := by
  unfold secretOf HoldsSecret
  rw [← Text.trim_firstLine_iff, ← String.toList_inj, String.toList_ofList]

theorem readSecret_ok {disk : Disk} {path text : String} (read : disk.readText path = .ok text) :
    readSecret disk path = .ok (secretOf text) := by
  unfold readSecret
  rw [read]

theorem HoldsSecret.shape {text secret : String} (holds : HoldsSecret text secret) :
    '\n' ∉ secret.toList ∧ Text.IsTight secret.toList := by
  obtain ⟨line, first, tight, before, after, _, _, parts⟩ := holds
  refine ⟨fun member => first.one_line ?_, tight⟩
  rw [parts]
  exact List.mem_append_left after (List.mem_append_right before member)

theorem holdsSecret_blank {line : List Char} {text : String}
    (first : Text.FirstLine line text.toList) (blank : Text.AllBlank line) : HoldsSecret text "" := by
  refine ⟨line, first, ⟨nofun, nofun⟩, line, [], blank, Text.allBlank_nil, ?_⟩
  rw [List.append_nil]
  exact (List.append_nil line).symm

theorem completed_secret {t : Settings} {secret : String} {c : Config}
    (done : completed t secret = .ok c) : c.secret = secret := by
  have filled : secret ≠ "" := by
    rintro rfl
    cases done
  rw [completed_addressed filled rfl (completed_ok done).2.2.1] at done
  obtain ⟨⟨name, port⟩, _, built⟩ := bind_ok done
  dsimp only at built
  split at built
  · cases built
  · cases built
    rfl

theorem load_broken {explicit : Option String} {around : Surroundings} {e : Fault}
    (broken : layer? explicit around = .error e) :
    load explicit around = .error (.config e.message) := by
  rw [load, load?, settings?_eq, broken]
  rfl

namespace Source

variable {a b : Source}

def secret? (a : Source) : Option String := (a.env "CASEY_SECRET").or a.file.secret

def secretFile? (a : Source) : Option String := (a.env "CASEY_SECRET_FILE").or a.file.secretFile

structure ElseAlike (a b : Source) : Prop where
  variable_eq (k : Key) : k ≠ .secret → k ≠ .secretFile →
    a.env k.variableName = b.env k.variableName
  file_same (k : Key) : k ≠ .secret → k ≠ .secretFile → k.Same a.file b.file

/-- What a source loads to whose secret is in a file with this text. -/
structure FromFile (a : Source) (text : String) : Prop where
  inlined (b : Source) (secret : String) : HoldsSecret text secret → a.ElseAlike b →
    b.secret? = some secret → a.load = b.load
  used (c : Config) : a.load = .ok c → HoldsSecret text c.secret ∧ '\n' ∉ c.secret.toList ∧
    Text.IsTight c.secret.toList
  blank (line : List Char) : Text.FirstLine line text.toList → Text.AllBlank line →
    ∃ e : Fault, a.load = .error (.config e.message) ∧
      (e = .emptySecret ∨ overlay a.env a.file = .error e)

theorem ElseAlike.settled (alike : a.ElseAlike b) {k : Key} (other : k ≠ .secret)
    (other' : k ≠ .secretFile) : k.Settled a.env b.env a.file b.file :=
  ⟨alike.variable_eq k other other', fun _ => alike.file_same k other other'⟩

section

variable {path text : String} (unset : a.secret? = none) (named : a.secretFile? = some path)
  (read : a.around.disk.readText path = .ok text)
include unset named read

theorem sharedSecret_fromFile {t : Settings} (laid : overlay a.env a.file = .ok t) :
    sharedSecret a.around.disk t = .ok (secretOf text) := by
  have secret : t.secret = none := (overlay_texts laid).2.2.1.trans unset
  have file : t.secretFile = some path := (overlay_texts laid).2.2.2.trans named
  unfold sharedSecret
  rw [secret, file]
  exact readSecret_ok read

theorem load_inlined (alike : a.ElseAlike b) (inline : b.secret? = some (secretOf text)) :
    a.load = b.load := by
  apply load_congr (alike.variable_eq .port (by decide) (by decide))
    (alike.variable_eq .timeoutSecs (by decide) (by decide))
  intro t t' laid laid' settled
  have same (k : Key) (other : k ≠ .secret) (other' : k ≠ .secretFile) : k.Same t t' :=
    settled k (alike.settled other other')
  have scheme : t.scheme = t'.scheme := same .scheme (by decide) (by decide)
  have host : t.host = t'.host := same .host (by decide) (by decide)
  have secs : t.timeoutSecs = t'.timeoutSecs := same .timeoutSecs (by decide) (by decide)
  have secret : t'.secret = some (secretOf text) := (overlay_texts laid').2.2.1.trans inline
  apply resolve_congr
  · rw [sharedSecret_fromFile unset named read laid, sharedSecret_inline secret]
  · intro _
    exact completed_congr (address_congr (by rw [host]) (.inr (by rw [scheme])))
      (hostPort_congr (same .port (by decide) (by decide))) (by rw [secs])

theorem load_used {c : Config} (loaded : a.load = .ok c) : c.secret = secretOf text := by
  rw [load_source] at loaded
  obtain ⟨t, laid, resolved⟩ := bind_ok (mapError_ok loaded)
  rw [resolve_eq] at resolved
  obtain ⟨secret, shared, done⟩ := bind_ok resolved
  rw [sharedSecret_fromFile unset named read laid] at shared
  rw [completed_secret done]
  exact (Except.ok.inj shared).symm

theorem load_blank (blank : secretOf text = "") : ∃ e : Fault,
    a.load = .error (.config e.message) ∧ (e = .emptySecret ∨ overlay a.env a.file = .error e) := by
  rw [load_source]
  cases laid : overlay a.env a.file with
  | error e => exact ⟨e, rfl, .inr rfl⟩
  | ok t =>
      have refused : resolve a.around.disk t = .error .emptySecret := by
        rw [resolve_eq, sharedSecret_fromFile unset named read laid, blank]
        rfl
      refine ⟨.emptySecret, ?_, .inl rfl⟩
      rw [Except.bind, refused]
      rfl

end

theorem fromFile {path text : String} (unset : a.secret? = none)
    (named : a.secretFile? = some path) (read : a.around.disk.readText path = .ok text) :
    a.FromFile text := by
  constructor
  case inlined =>
    intro b secret holds alike inline
    rw [← secretOf_eq_iff.mpr holds] at inline
    exact load_inlined unset named read alike inline
  case used =>
    intro c loaded
    have holds := secretOf_eq_iff.mp (load_used unset named read loaded).symm
    exact ⟨holds, holds.shape⟩
  case blank =>
    intro line first blank
    exact load_blank unset named read (secretOf_eq_iff.mpr (holdsSecret_blank first blank))

end Source

/-- A secret in a file loads as the one that it holds does when set directly. Where the file for the
settings is broken, no variable but the one that names it has a say. -/
theorem load_secretFile :
    (∀ (a : Source) (path text : String), a.secret? = none → a.secretFile? = some path →
      a.around.disk.readText path = .ok text → a.FromFile text) ∧
    ∀ (explicit : Option String) (around : Surroundings) (env : String → Option String),
      (∀ file, layer? explicit around ≠ .ok file) →
      env "CASEY_CONFIG" = around.env "CASEY_CONFIG" →
      load explicit { around with env } = load explicit around := by
  refine ⟨fun a path text unset named read => Source.fromFile unset named read, ?_⟩
  intro explicit around env broken same
  have path : path? explicit { around with env } = path? explicit around := by
    unfold path?
    rw [← same]
  have layer : layer? explicit { around with env } = layer? explicit around := by
    unfold layer?
    rw [path]
    rfl
  cases failed : layer? explicit around with
  | error e => rw [load_broken (layer.trans failed), load_broken failed]
  | ok file => exact absurd failed (broken file)

def keyed (name value : String) : Surroundings where
  env other := if other = name then some value else none
  disk := ⟨fun path =>
    if path = "key" then .file (.bytes (Text.utf8 "\t top secret \r\nand more\n"))
    else .absent .notFound⟩
  home := none
  wording _ _ := ""

theorem load_secretFile_crlf :
    load none (keyed "CASEY_SECRET_FILE" "key") = load none (keyed "CASEY_SECRET" "top secret") ∧
      load none (keyed "CASEY_SECRET" "top secret") =
        .ok ⟨"http", "localhost", 5005, "top secret", 300000⟩ := by
  refine ⟨?_, rfl⟩
  have read : (keyed "CASEY_SECRET_FILE" "key").disk.readText "key" =
      .ok "\t top secret \r\nand more\n" := by
    simp [keyed, Disk.readText, Text.ofUtf8?_utf8]
  have holds : HoldsSecret "\t top secret \r\nand more\n" "top secret" :=
    secretOf_eq_iff.mp (by decide)
  have others (k : Key) (_ : k ≠ .secret) (_ : k ≠ .secretFile) :
      (keyed "CASEY_SECRET_FILE" "key").env k.variableName =
        (keyed "CASEY_SECRET" "top secret").env k.variableName := by
    cases k <;> first | rfl | contradiction
  exact (load_secretFile.1 ⟨none, keyed "CASEY_SECRET_FILE" "key", {}, rfl⟩ "key" _ rfl rfl
    read).inlined ⟨none, keyed "CASEY_SECRET" "top secret", {}, rfl⟩ _ holds
    ⟨others, fun k _ _ => by cases k <;> rfl⟩ rfl

end Config

end Handin
