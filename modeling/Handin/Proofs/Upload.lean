import Handin.Proofs.Containment
import Handin.Proofs.Settlement

namespace Handin

/-- What becomes of the files that a service lists. -/
structure AllOrNothing {σ : Type} (s : Scene σ) (i : Invocation) (out : Sink) (t : Trace σ) :
    Prop where
  all (names : List String) : i.dryRun = false → s.listed? i = some names →
    (∀ n ∈ names, Ordinary n) →
    (∀ n ∈ names, ∃ content,
      s.disk.look (Disk.join s.dir n) = .file content ∧ content ≠ .unopenable) →
    ∃ query request exchange, s.query? i = some query ∧
      t.exchanges = [(query, s.reply query), (request, exchange)] ∧
      request.form = some (names.map fun n => ⟨n, n, s.disk.bytes? (Disk.join s.dir n)⟩)
  nothing (names : List String) : i.dryRun = false → s.listed? i = some names →
    (∀ n ∈ names, Ordinary n) →
    (∃ n ∈ names, ¬ ∃ content,
      s.disk.look (Disk.join s.dir n) = .file content ∧ content ≠ .unopenable) →
    ∃ query, s.query? i = some query ∧ t.exchanges = [(query, s.reply query)] ∧ t.out = out ∧
      t.result = .error (.upload names)
  complete (files : List String) : t.result = .error (.upload files) →
    s.listed? i = some files ∧ files ≠ []

namespace Scene

variable {σ : Type} {s : Scene σ} {i : Invocation}

theorem files_error {f : Failure} (refused : s.files i = .error f) :
    f = .discovery ∨ ∃ bad, f = .unsafeName bad := by
  unfold Scene.files at refused
  repeat' split at refused
  all_goals cases refused
  · exact .inl rfl
  · exact .inr ⟨_, rfl⟩

theorem composed_error {owner user : String} (accounts : s.accounts = ⟨.ok owner, .ok user⟩)
    {f : Failure} (refused : s.composed i = .error f) :
    (∃ text, f = .usage text) ∨ f = .discovery ∨ ∃ bad, f = .unsafeName bad := by
  rcases bind_error refused with names | ⟨⟨course, assignment⟩, _, refused⟩
  · exact .inl (Invocation.names_error names)
  rcases bind_error refused with owned | ⟨_, _, refused⟩
  · rw [accounts] at owned
    cases owned
  rcases bind_error refused with files | ⟨_, _, refused⟩
  · exact .inr (files_error files)
  rcases bind_error refused with used | ⟨_, _, refused⟩
  · rw [accounts] at used
    cases used
  · cases refused

theorem composed_of_listed {owner user : String} (accounts : s.accounts = ⟨.ok owner, .ok user⟩)
    {names : List String} (listed : s.listed? i = some names)
    (ordinary : ∀ n ∈ names, Ordinary n) :
    ∃ submission, s.composed i = .ok submission ∧ submission.upload = some names := by
  obtain ⟨submission, ready⟩ := (composed_isOk_iff accounts (wellNamed_of_listed listed)).mpr
    (.inr ⟨names, listed, fun n member => isPlain_iff.mpr (ordinary n member)⟩)
  exact ⟨submission, ready, (composed_upload ready).1.trans listed⟩

theorem asked_of_listed {names : List String} (listed : s.listed? i = some names) :
    ∃ query, s.query? i = some query ∧ s.asked i = [(query, s.reply query)] := by
  obtain ⟨query, present, _⟩ := Option.bind_eq_some_iff.mp listed
  exact ⟨query, present, by rw [asked, present]; rfl⟩

theorem run_all {owner user : String} (accounts : s.accounts = ⟨.ok owner, .ok user⟩)
    (wet : i.dryRun = false) {names : List String} (listed : s.listed? i = some names)
    (ordinary : ∀ n ∈ names, Ordinary n) (opened : ∀ n ∈ names, s.opens n = true) (out : Sink) :
    ∃ query request exchange, s.query? i = some query ∧
      (s.run i out).exchanges = [(query, s.reply query), (request, exchange)] ∧
      request.form = some (names.map s.part) := by
  obtain ⟨submission, ready, upload⟩ := composed_of_listed accounts listed ordinary
  obtain ⟨query, present, asked⟩ := asked_of_listed listed
  have attached : s.attached? submission = some ⟨submission.url, some (names.map s.part)⟩ := by
    simp only [attached?, upload]
    rw [if_pos (List.all_eq_true.mpr opened)]
  rw [s.run_sent ready wet attached out, asked]
  exact ⟨query, _, _, present, rfl, rfl⟩

theorem run_nothing {owner user : String} (accounts : s.accounts = ⟨.ok owner, .ok user⟩)
    (wet : i.dryRun = false) {names : List String} (listed : s.listed? i = some names)
    (ordinary : ∀ n ∈ names, Ordinary n) (shut : ∃ n ∈ names, ¬ s.opens n = true) (out : Sink) :
    ∃ query, s.query? i = some query ∧ (s.run i out).exchanges = [(query, s.reply query)] ∧
      (s.run i out).out = out ∧ (s.run i out).result = .error (.upload names) := by
  obtain ⟨submission, ready, upload⟩ := composed_of_listed accounts listed ordinary
  obtain ⟨query, present, asked⟩ := asked_of_listed listed
  have files : submission.files = names := by rw [Submission.files, upload, Option.getD_some]
  have unattached : s.attached? submission = none := by
    rw [← Option.not_isSome_iff_eq_none, attached?_isSome_iff, files]
    intro opened
    obtain ⟨n, member, closed⟩ := shut
    exact closed (opened n member)
  rw [s.run_unattached ready wet unattached out, asked, files]
  exact ⟨query, present, rfl, rfl, rfl⟩

theorem upload_listed {submission : Submission} (ready : s.composed i = .ok submission)
    (filled : submission.files ≠ []) : s.listed? i = some submission.files := by
  rw [composed_files ready] at filled ⊢
  cases listed : s.listed? i with
  | none => exact absurd (by rw [listed]; rfl) filled
  | some names => rfl

theorem run_complete {owner user : String} (accounts : s.accounts = ⟨.ok owner, .ok user⟩)
    {out : Sink} {files : List String} (failed : (s.run i out).result = .error (.upload files)) :
    s.listed? i = some files ∧ files ≠ [] := by
  generalize ran : s.run i out = t at failed
  cases went_of_run ran with
  | refused refused =>
      cases failed
      rcases composed_error accounts refused with ⟨_, other⟩ | other | ⟨_, other⟩ <;> cases other
  | printed ready dry =>
      obtain ⟨kind, other⟩ := print_error failed
      cases other
  | @unattached submission ready _ shut =>
      cases failed
      have filled : submission.files ≠ [] := by
        intro empty
        have attached : (s.attached? submission).isSome = true :=
          attached?_isSome_iff.mpr (by simp [empty])
        rw [shut] at attached
        cases attached
      exact ⟨upload_listed ready filled, filled⟩
  | sent ready _ attached =>
      obtain ⟨rfl, _, _, _, _, _, _, filled⟩ :=
        ((settle_settled _ _ _ _).upload_iff files).mp failed
      exact ⟨upload_listed ready filled, filled⟩

/-- With the accounts known, either all listed files are sent in one request or none is, and a
failure to upload tells all of them. -/
theorem run_allOrNothing {owner user : String} (s : Scene σ)
    (accounts : s.accounts = ⟨.ok owner, .ok user⟩) (i : Invocation) (out : Sink) :
    AllOrNothing s i out (s.run i out) where
  all names wet listed ordinary opened :=
    run_all accounts wet listed ordinary (fun n member => opens_iff.mpr (opened n member)) out
  nothing names wet listed ordinary shut := by
    obtain ⟨n, member, closed⟩ := shut
    exact run_nothing accounts wet listed ordinary
      ⟨n, member, fun opened => closed (opens_iff.mp opened)⟩ out
  complete files failed := run_complete accounts failed

theorem run_allOrNothing_small : ∃ query request exchange,
    small.query? ⟨some "c1", some "a1", false⟩ = some query ∧
      (small.run ⟨some "c1", some "a1", false⟩ {}).exchanges =
        [(query, small.reply query), (request, exchange)] ∧
      request.form =
        some [⟨"a.c", "a.c", some [1, 2]⟩, ⟨"b.h", "b.h", some [3]⟩, ⟨"a.c", "a.c", some [1, 2]⟩] := by
  have plain : ["a.c", "b.h", "a.c"].all Listing.isPlain = true := by decide
  have opened : ["a.c", "b.h", "a.c"].all small.opens = true := by decide
  exact (small.run_allOrNothing rfl ⟨some "c1", some "a1", false⟩ {}).all ["a.c", "b.h", "a.c"] rfl
    (by decide +kernel) (fun n member => isPlain_iff.mp (List.all_eq_true.mp plain n member))
    fun n member => opens_iff.mp (List.all_eq_true.mp opened n member)

end Scene

end Handin
