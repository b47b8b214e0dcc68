import Handin.Proofs.AddressText
import Handin.Proofs.Listing

namespace Handin

namespace Submission

structure Told where
  method : String
  address : String
  files : List String
  deriving DecidableEq

def told (s : Submission) : Told := ⟨s.method, s.url.text, s.files⟩

def flag : List Char := ['-', 'F']

def pair (name : String) : List Char := name.toList ++ '=' :: '@' :: name.toList

/-- The name that stands twice in a word. Where it ends, the length of the word tells, as the mark
between may be part of the name. -/
def name? (word : List Char) : Option String :=
  let name := String.ofList (word.take ((word.length - 2) / 2))
  if word = pair name then some name else none

def names? : List (List Char) → Option (List String)
  | [] => some []
  | [_] => none
  | first :: word :: rest =>
    if first = flag then do
      let name ← name? word
      let names ← names? rest
      return name :: names
    else none

/-- Reads a line. -/
def read? (line : String) : Option Told :=
  match line.toList.splitOn ' ' with
  | method :: address :: rest =>
    (names? rest).map fun files => ⟨String.ofList method, String.ofList address, files⟩
  | _ => none

def lineWords (s : Submission) : List (List Char) :=
  s.method.toList :: s.url.text.toList :: s.files.flatMap fun name => [flag, pair name]

theorem lineWords_ne_nil (s : Submission) : s.lineWords ≠ [] := List.cons_ne_nil _ _

theorem toList_describe (s : Submission) : s.describe.toList = [' '].intercalate s.lineWords := by
  have parts : s.lineWords.flatMap (' ' :: ·) = ' ' :: s.describe.toList := by
    simp only [lineWords, describe, String.toList_append, String.toList_join, List.flatMap_cons,
      List.flatMap_map, List.flatMap_assoc]
    simp [flag, pair]
  rw [Url.flatMap_mark ' ' s.lineWords_ne_nil] at parts
  exact (List.cons.inj parts).2.symm

theorem name?_pair (name : String) : name? (pair name) = some name := by
  have half : ((pair name).length - 2) / 2 = name.toList.length := by
    simp only [pair, List.length_append, List.length_cons]
    omega
  have front : (pair name).take name.toList.length = name.toList := by
    rw [pair, List.take_left]
  simp only [name?, half, front, String.ofList_toList, if_true]

theorem names?_flagged (files : List String) :
    names? (files.flatMap fun name => [flag, pair name]) = some files := by
  induction files with
  | nil => rfl
  | cons name rest ih =>
      simp [names?, name?_pair, ih]

theorem space_notMem_lineWords {s : Submission} (address : ' ' ∉ s.url.text.toList)
    (solid : ∀ name ∈ s.files, ' ' ∉ name.toList) : ∀ word ∈ s.lineWords, ' ' ∉ word := by
  have method : ' ' ∉ s.method.toList := by
    unfold method methodName
    split <;> decide
  intro word member
  rcases List.mem_cons.mp member with rfl | later
  · exact method
  · rcases List.mem_cons.mp later with rfl | file
    · exact address
    · obtain ⟨name, inside, here⟩ := List.mem_flatMap.mp file
      rcases List.mem_cons.mp here with rfl | pair'
      · decide
      · rw [List.mem_singleton.mp pair']
        simpa [pair] using solid name inside

theorem read?_describe {s : Submission} (address : ' ' ∉ s.url.text.toList)
    (solid : ∀ name ∈ s.files, ' ' ∉ name.toList) : read? s.describe = some s.told := by
  have clean := space_notMem_lineWords address solid
  rw [read?, toList_describe, List.splitOn_intercalate ' ' clean s.lineWords_ne_nil]
  simp only [lineWords, names?_flagged, Option.map_some, String.ofList_toList, told]

/-- A request of a web client, with no files or with those that some reply lists. -/
structure Built (s : Submission) : Prop where
  made : ∃ config c, Client.ofConfig config = .ok c ∧ Url.IsWeb c.base.scheme ∧
    ∃ d files, s = c.submitted d files
  listed : s.files = [] ∨ ∃ reply, Listing.names? reply = some s.files

theorem Built.addressed {s : Submission} (built : s.Built) : s.url.Addressed := by
  obtain ⟨config, c, made, web, d, files, rfl⟩ := built.made
  rw [Client.submitted_url]
  exact Client.url_addressed made web _

theorem Built.solid {s : Submission} (built : s.Built) {name : String} (member : name ∈ s.files) :
    ' ' ∉ name.toList := by
  intro inside
  rcases built.listed with none | ⟨reply, listed⟩
  · rw [none] at member
    cases member
  · have blank := Handin.names?_solid listed member inside
    cases blank

theorem Built.read?_describe {s : Submission} (built : s.Built) : read? s.describe = some s.told :=
  Submission.read?_describe built.addressed.space_notMem_text fun _ => built.solid

theorem upload_eq {s s' : Submission} (method : s.method = s'.method) (files : s.files = s'.files) :
    s.upload = s'.upload := by
  have posts (s : Submission) : s.upload.isSome = decide (s.method = "POST") := by
    unfold Submission.method
    cases s.upload.isSome <;> decide
  have uploads : s.upload.isSome = s'.upload.isSome := by
    rw [posts, method, posts]
  cases upload : s.upload with
  | none =>
      have absent : s'.upload = none := by
        rw [← Option.not_isSome_iff_eq_none, ← uploads, upload]
        exact Bool.false_ne_true
      exact absent.symm
  | some names =>
      rw [upload] at uploads
      obtain ⟨names', upload'⟩ := Option.isSome_iff_exists.mp uploads.symm
      simp only [Submission.files, upload, upload', Option.getD_some] at files
      rw [upload', files]

theorem Built.eq_of_describe {s s' : Submission} (built : s.Built) (built' : s'.Built)
    (same : s'.describe = s.describe) : s' = s := by
  have told := built'.read?_describe
  rw [same, built.read?_describe] at told
  obtain ⟨method, address, files⟩ := Told.mk.inj (Option.some.inj told)
  have url := built.addressed.text_injective built'.addressed address
  have upload := upload_eq method files
  cases s
  cases s'
  simp only at url upload
  rw [url, upload]

/-- The line of a request is read back as the request it is the line of, and no other request has it. -/
theorem describe_tells {s : Submission} (built : s.Built) : read? s.describe = some s.told ∧
    ∀ s' : Submission, s'.Built → s'.describe = s.describe → s' = s := by
  refine ⟨built.read?_describe, ?_⟩
  intro s' built' same
  exact built.eq_of_describe built' same

theorem describe_tells_marked : ∃ s : Submission, s.Built ∧
    s.describe = "POST http://grader.example:8443/o/u/t/cs101/a1/" ++
      " -F -F=@-F -F a=@a=@a=@a -F a=@a=@a=@a" ∧
    read? s.describe =
      some ⟨"POST", "http://grader.example:8443/o/u/t/cs101/a1/", ["-F", "a=@a", "a=@a"]⟩ ∧
    ∀ s' : Submission, s'.Built → s'.describe = s.describe → s' = s := by
  have made : Client.ofConfig ⟨"http", "grader.example", 8443, "k", 300000⟩ = .ok
      ⟨⟨"http", some { host := .name "grader.example", port := some 8443 }, .segments false [""],
        none, none⟩, "k", 300000⟩ := by
    decide +kernel
  have built : Built (Client.submitted
      ⟨⟨"http", some { host := .name "grader.example", port := some 8443 }, .segments false [""],
        none, none⟩, "k", 300000⟩ ⟨"o", "u", "t", ⟨"cs101", by decide⟩, some ⟨"a1", by decide⟩⟩
      (some ["-F", "a=@a", "a=@a"])) :=
    ⟨⟨_, _, made, .inl rfl, _, _, rfl⟩, .inr ⟨"-F a=@a a=@a", by decide +kernel⟩⟩
  obtain ⟨read, alone⟩ := describe_tells built
  exact ⟨_, built, by decide +kernel, read.trans (by decide +kernel), alone⟩

end Submission

end Handin
