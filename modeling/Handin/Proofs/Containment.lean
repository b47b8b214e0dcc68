import Handin.Proofs.Composed
import Handin.Proofs.Listing

namespace Handin

def Disk.isAbsolute (path : String) : Prop := path.toList.head? = some '/'

namespace Folder

/-- The names in a path, without empty ones and `.`. -/
def names (path : List Char) : List String :=
  ((path.splitOn '/').map String.ofList).filter fun n => n != "" && n != "."

theorem names_append (front back : List Char) :
    names (front ++ '/' :: back) = names front ++ names back := by
  simp [names, List.splitOn_append_cons_self]

theorem names_ordinary {name : String} (ordinary : Ordinary name) :
    names name.toList = [name] := by
  have whole : name.toList.splitOn '/' = [name.toList] :=
    List.splitOn_eq_singleton fun member => (ordinary.no_separator '/' member).1 rfl
  simp [names, whole, ordinary.ne_empty, ordinary.ne_dot]

end Folder

namespace Disk

theorem ordinary_head {name : String} (ordinary : Ordinary name) :
    ∃ c rest, name.toList = c :: rest ∧ c ≠ '/' := by
  cases chars : name.toList with
  | nil => exact absurd (String.toList_eq_nil_iff.mp chars) ordinary.ne_empty
  | cons c rest =>
      have first : c ∈ name.toList := by simp [chars]
      exact ⟨c, rest, rfl, (ordinary.no_separator c first).1⟩

theorem join_toList {name : String} (ordinary : Ordinary name) (dir : String) :
    dir.toList = [] ∧ (join dir name).toList = name.toList ∨
      ∃ front, (dir.toList = front ++ ['/'] ∨ dir.toList = front ∧ front ≠ []) ∧
        (join dir name).toList = front ++ '/' :: name.toList := by
  obtain ⟨c, rest, chars, plain⟩ := ordinary_head ordinary
  unfold join
  split
  next _ slash =>
    rw [chars] at slash
    cases slash
    exact absurd rfl plain
  next last _ => exact .inl ⟨List.getLast?_eq_none_iff.mp last, rfl⟩
  next last _ =>
    obtain ⟨front, whole⟩ := List.getLast?_eq_some_iff.mp last
    exact .inr ⟨front, .inl whole, by simp [whole]⟩
  next last _ =>
    refine .inr ⟨dir.toList, .inr ⟨rfl, ?_⟩, by simp⟩
    intro empty
    rw [empty] at last
    cases last

theorem names_join {name : String} (ordinary : Ordinary name) (dir : String) :
    Folder.names (join dir name).toList = Folder.names dir.toList ++ [name] := by
  have empty : Folder.names [] = [] := rfl
  rcases join_toList ordinary dir with ⟨none, path⟩ | ⟨front, whole | ⟨whole, _⟩, path⟩
  · rw [path, none, Folder.names_ordinary ordinary, empty, List.nil_append]
  · rw [path, whole, Folder.names_append, Folder.names_append, Folder.names_ordinary ordinary,
      empty, List.append_nil]
  · rw [path, whole, Folder.names_append, Folder.names_ordinary ordinary]

theorem isAbsolute_join {name : String} (ordinary : Ordinary name) (dir : String) :
    isAbsolute (join dir name) ↔ isAbsolute dir := by
  obtain ⟨c, rest, chars, plain⟩ := ordinary_head ordinary
  unfold isAbsolute
  rcases join_toList ordinary dir with ⟨none, path⟩ | ⟨front, whole | ⟨whole, filled⟩, path⟩
  · rw [path, none, chars]
    simp [plain]
  · rw [path, whole]
    cases front <;> simp
  · rw [path, whole]
    cases front with
    | nil => exact absurd rfl filled
    | cons x front => simp

end Disk

/-- What a path is to the folder `dir` that leads to its own file `name`. -/
structure Child (dir name path : String) : Prop where
  ordinary : Ordinary name
  relative : ¬ Disk.isAbsolute name
  joined : path = Disk.join dir name
  below : Folder.names path.toList = Folder.names dir.toList ++ [name]
  ne_folder : Folder.names path.toList ≠ Folder.names dir.toList
  ne_parent : Folder.names path.toList ≠ (Folder.names dir.toList).dropLast
  isAbsolute_iff : Disk.isAbsolute path ↔ Disk.isAbsolute dir

theorem child_join {name : String} (ordinary : Ordinary name) (dir : String) :
    Child dir name (Disk.join dir name) where
  ordinary := ordinary
  relative := by
    obtain ⟨c, rest, chars, plain⟩ := Disk.ordinary_head ordinary
    simp [Disk.isAbsolute, chars, plain]
  joined := rfl
  below := Disk.names_join ordinary dir
  ne_folder := by
    rw [Disk.names_join ordinary dir]
    simp
  ne_parent := by
    intro same
    have lengths := congrArg List.length same
    rw [Disk.names_join ordinary dir, List.length_append, List.length_dropLast,
      List.length_singleton] at lengths
    omega
  isAbsolute_iff := Disk.isAbsolute_join ordinary dir

/-- What the working folder is to an invocation. -/
structure Contained {σ : Type} (s : Scene σ) (i : Invocation) (out : Sink) (t : Trace σ) :
    Prop where
  looked (path : String) : path ∈ t.paths →
    ∃ names, s.listed? i = some names ∧ ∃ name ∈ names, Child s.dir name path
  uploaded (request : Request) (exchange : Exchange) (parts : List Part) (part : Part) :
    (request, exchange) ∈ t.exchanges → request.form = some parts → part ∈ parts →
      ∃ names, s.listed? i = some names ∧ ∃ name ∈ names, ∃ path ∈ t.paths,
        Child s.dir name path ∧ part = ⟨name, name, s.disk.bytes? path⟩
  refused (names : List String) : s.listed? i = some names → (∃ name ∈ names, ¬ Ordinary name) →
    ∃ front bad back, names = front ++ bad :: back ∧ (∀ name ∈ front, Ordinary name) ∧
      ¬ Ordinary bad ∧ t = ⟨.error (.unsafeName bad), out, s.asked i, [], s.served i⟩
  same_names (disk : Disk) (dir : String) :
    (∀ names, s.listed? i = some names → ∀ name ∈ names,
      disk.look (Disk.join dir name) = s.disk.look (Disk.join s.dir name)) →
    ({ s with disk, dir }.run i out).result = t.result ∧
      ({ s with disk, dir }.run i out).out = t.out ∧
      ({ s with disk, dir }.run i out).exchanges = t.exchanges ∧
      ({ s with disk, dir }.run i out).service = t.service
  no_assignment : i.assignment = none → ∀ disk dir, { s with disk, dir }.run i out = t

namespace Scene

variable {σ : Type} {s : Scene σ} {i : Invocation}

theorem mem_tried {names : List String} {path : String} (member : path ∈ s.tried names) :
    ∃ name ∈ names, path = Disk.join s.dir name := by
  induction names with
  | nil => cases member
  | cons name rest ih =>
      rcases List.mem_cons.mp member with rfl | later
      · exact ⟨name, List.mem_cons_self, rfl⟩
      · split at later
        · obtain ⟨found, more, same⟩ := ih later
          exact ⟨found, List.mem_cons_of_mem _ more, same⟩
        · cases later

theorem tried_opened {names : List String} (opened : ∀ n ∈ names, s.opens n = true) :
    s.tried names = names.map (Disk.join s.dir) := by
  induction names with
  | nil => rfl
  | cons name rest ih =>
      rw [tried, opened name List.mem_cons_self, if_pos rfl,
        ih fun n member => opened n (List.mem_cons_of_mem _ member), List.map_cons]

theorem composed_listed {submission : Submission} (ready : s.composed i = .ok submission)
    {name : String} (member : name ∈ submission.files) :
    ∃ names, s.listed? i = some names ∧ name ∈ names ∧ Ordinary name := by
  obtain ⟨_, _, _, files, _, _, _, expected, _, _⟩ := composed_ok ready
  obtain ⟨rfl, plain⟩ := files_ok expected
  rw [composed_files ready] at member
  cases listed : s.listed? i with
  | none =>
      rw [listed] at member
      cases member
  | some names =>
      rw [listed, Option.getD_some] at member
      exact ⟨names, rfl, member,
        isPlain_iff.mp (List.all_eq_true.mp (plain names listed) name member)⟩

theorem touched_ready {path : String} (member : path ∈ s.touched i) :
    ∃ submission, s.composed i = .ok submission ∧ path ∈ s.tried submission.files := by
  unfold touched at member
  split at member
  · cases member
  · cases ready : s.composed i with
    | error f =>
        rw [ready] at member
        cases member
    | ok submission =>
        rw [ready] at member
        exact ⟨submission, rfl, member⟩

theorem looked_child {path : String} (member : path ∈ s.touched i) :
    ∃ names, s.listed? i = some names ∧ ∃ name ∈ names, Child s.dir name path := by
  obtain ⟨submission, ready, tried⟩ := touched_ready member
  obtain ⟨name, file, rfl⟩ := mem_tried tried
  obtain ⟨names, listed, member, ordinary⟩ := composed_listed ready file
  exact ⟨names, listed, name, member, child_join ordinary s.dir⟩

theorem attached?_parts {submission : Submission} {request : Request} {parts : List Part}
    (attached : s.attached? submission = some request) (form : request.form = some parts) :
    parts = submission.files.map s.part := by
  cases upload : submission.upload with
  | none =>
      simp only [attached?, upload, Option.some.injEq] at attached
      rw [← attached] at form
      cases form
  | some names =>
      simp only [attached?, upload] at attached
      split at attached <;> cases attached
      cases form
      rw [Submission.files, upload, Option.getD_some]

theorem uploaded_child {request : Request} {parts : List Part} {part : Part}
    (sent : s.sent? i = some request) (form : request.form = some parts) (member : part ∈ parts) :
    ∃ names, s.listed? i = some names ∧ ∃ name ∈ names, ∃ path ∈ s.touched i,
      Child s.dir name path ∧ part = ⟨name, name, s.disk.bytes? path⟩ := by
  obtain ⟨submission, ready, wet, attached⟩ := sent?_some sent
  rw [attached?_parts attached form] at member
  obtain ⟨name, file, rfl⟩ := List.mem_map.mp member
  obtain ⟨names, listed, among, ordinary⟩ := composed_listed ready file
  have opened := attached?_isSome_iff.mp (Option.isSome_of_eq_some attached)
  have touched : Disk.join s.dir name ∈ s.touched i := by
    simpa [Scene.touched, wet, ready, Except.toOption, tried_opened opened] using
      ⟨name, file, rfl⟩
  exact ⟨names, listed, name, among, _, touched, child_join ordinary s.dir, rfl⟩

theorem composed_refused {query : Request} {f : Failure} (present : s.query? i = some query)
    (refused : s.files i = .error f) : s.composed i = .error f := by
  rcases named : i.names with g | ⟨course, assignment⟩
  · simp [query?, named] at present
  · rcases owned : s.accounts.owner with g | owner
    · cases assignment <;> simp [query?, named, owned] at present
    · simp only [Scene.composed, named, owned, refused]
      rfl

theorem refused_first {names : List String} (listed : s.listed? i = some names)
    (odd : ∃ name ∈ names, ¬ Ordinary name) (out : Sink) :
    ∃ front bad back, names = front ++ bad :: back ∧ (∀ name ∈ front, Ordinary name) ∧
      ¬ Ordinary bad ∧ s.run i out = ⟨.error (.unsafeName bad), out, s.asked i, [], s.served i⟩ := by
  obtain ⟨query, present, _⟩ := Option.bind_eq_some_iff.mp listed
  cases found : names.find? (!Listing.isPlain ·) with
  | none =>
      obtain ⟨name, member, bad⟩ := odd
      have plain := List.find?_eq_none.mp found name member
      exact absurd (isPlain_iff.mp (by simpa using plain)) bad
  | some bad =>
      obtain ⟨refuses, front, back, rfl, plain⟩ := List.find?_eq_some_iff_append.mp found
      refine ⟨front, bad, back, rfl, ?_, ?_, ?_⟩
      · intro name member
        exact isPlain_iff.mp (by simpa using plain name member)
      · intro ordinary
        rw [isPlain_iff.mpr ordinary] at refuses
        cases refuses
      · apply run_refused
        apply composed_refused present
        simp only [Scene.files, present, listed, found]

variable {disk : Disk} {dir : String}

theorem attached?_agree {submission : Submission}
    (agree : ∀ name ∈ submission.files,
      disk.look (Disk.join dir name) = s.disk.look (Disk.join s.dir name)) :
    { s with disk, dir }.attached? submission = s.attached? submission := by
  cases upload : submission.upload with
  | none => simp only [attached?, upload]
  | some names =>
      rw [Submission.files, upload, Option.getD_some] at agree
      have opens : ∀ name ∈ names, { s with disk, dir }.opens name = s.opens name := by
        intro name member
        simp only [Scene.opens, Disk.opens, agree name member]
      have parts : names.map { s with disk, dir }.part = names.map s.part := by
        apply List.map_congr_left
        intro name member
        simp only [part, Disk.bytes?, agree name member]
      have all : names.all { s with disk, dir }.opens = names.all s.opens := by
        rw [Bool.eq_iff_iff, List.all_eq_true, List.all_eq_true]
        exact forall₂_congr fun name member => by rw [opens name member]
      simp only [attached?, upload, parts, all]

theorem run_agree
    (agree : ∀ names, s.listed? i = some names → ∀ name ∈ names,
      disk.look (Disk.join dir name) = s.disk.look (Disk.join s.dir name)) (out : Sink) :
    ({ s with disk, dir }.run i out).result = (s.run i out).result ∧
      ({ s with disk, dir }.run i out).out = (s.run i out).out ∧
      ({ s with disk, dir }.run i out).exchanges = (s.run i out).exchanges ∧
      ({ s with disk, dir }.run i out).service = (s.run i out).service := by
  -- what is composed is known before any file is looked at
  have composed : { s with disk, dir }.composed i = s.composed i := rfl
  have attached : ∀ submission, s.composed i = .ok submission →
      { s with disk, dir }.attached? submission = s.attached? submission := by
    intro submission ready
    apply attached?_agree
    intro name file
    obtain ⟨names, listed, member, _⟩ := composed_listed ready file
    exact agree names listed name member
  generalize ran : s.run i out = t
  cases went_of_run ran with
  | refused refused =>
      rw [run_refused _ (composed.trans refused) out]
      exact ⟨rfl, rfl, rfl, rfl⟩
  | printed ready dry =>
      rw [run_printed _ (composed.trans ready) dry out]
      exact ⟨rfl, rfl, rfl, rfl⟩
  | unattached ready wet shut =>
      rw [run_unattached _ (composed.trans ready) wet ((attached _ ready).trans shut) out]
      exact ⟨rfl, rfl, rfl, rfl⟩
  | sent ready wet opened =>
      rw [run_sent _ (composed.trans ready) wet ((attached _ ready).trans opened) out]
      exact ⟨rfl, rfl, rfl, rfl⟩

theorem touched_no_assignment (absent : i.assignment = none) : s.touched i = [] := by
  apply List.eq_nil_iff_forall_not_mem.mpr
  intro path member
  obtain ⟨names, listed, _⟩ := looked_child member
  rw [listed?_none absent] at listed
  cases listed

theorem run_no_assignment (absent : i.assignment = none) (out : Sink) :
    { s with disk, dir }.run i out = s.run i out := by
  have agree : ∀ names, s.listed? i = some names → ∀ name ∈ names,
      disk.look (Disk.join dir name) = s.disk.look (Disk.join s.dir name) := by
    intro names listed
    rw [listed?_none absent] at listed
    cases listed
  obtain ⟨result, sink, exchanges, service⟩ := run_agree agree out
  refine Trace.ext result sink exchanges ?_ service
  rw [run_paths, run_paths, touched_no_assignment absent, touched_no_assignment absent]

/-- An invocation is contained in its working folder, whatever the service lists. -/
theorem run_contained (s : Scene σ) (i : Invocation) (out : Sink) :
    Contained s i out (s.run i out) where
  looked path member := looked_child (run_paths s i out ▸ member)
  uploaded request exchange parts part member form among := by
    rw [run_paths]
    rw [run_exchanges] at member
    rcases List.mem_append.mp member with asked | sent
    · have bare := (query?_some (mem_asked.mp asked).1).1
      rw [form] at bare
      cases bare
    · obtain ⟨_, present, same⟩ := List.mem_map.mp sent
      cases same
      exact uploaded_child (Option.mem_toList.mp present) form among
  refused names listed odd := refused_first listed odd out
  same_names disk dir agree := run_agree agree out
  no_assignment absent disk dir := run_no_assignment absent out

end Scene

end Handin
