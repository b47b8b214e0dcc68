import Handin.Proofs.Names
import Handin.Proofs.Scene

namespace Handin

/-- Whether a request is the submission of an invocation: of the two that an assignment takes, only
the submission carries a form. -/
def Invocation.submits (i : Invocation) (request : Request) : Prop :=
  request.form.isSome = i.assignment.isSome

namespace Scene

variable {σ : Type} {s : Scene σ}

theorem query?_some {i : Invocation} {query : Request} (present : s.query? i = some query) :
    query.form = none ∧ i.assignment.isSome = true := by
  rcases named : i.names with f | ⟨course, _ | assignment⟩
  · simp [query?, named] at present
  · simp [query?, named] at present
  · rcases owned : s.accounts.owner with f | owner
    · simp [query?, named, owned] at present
    · have query_eq : s.client.listingRequest owner course assignment = query := by
        simpa [query?, named, owned] using present
      rw [(Invocation.names_ok named).2, ← query_eq]
      exact ⟨rfl, rfl⟩

theorem mem_asked {i : Invocation} {request : Request} {exchange : Exchange} :
    (request, exchange) ∈ s.asked i ↔ s.query? i = some request ∧ exchange = s.reply request := by
  cases present : s.query? i with
  | none => simp [asked, present]
  | some query =>
      simp only [asked, present, Option.toList_some, List.map_cons, List.map_nil,
        List.mem_singleton, Prod.mk.injEq, Option.some.injEq]
      constructor
      · rintro ⟨rfl, rfl⟩
        exact ⟨rfl, rfl⟩
      · rintro ⟨rfl, rfl⟩
        exact ⟨rfl, rfl⟩

theorem composed_ok {i : Invocation} {submission : Submission}
    (ready : s.composed i = .ok submission) :
    ∃ course assignment owner files user, i.names = .ok (course, assignment) ∧
      s.accounts.owner = .ok owner ∧ s.files i = .ok files ∧ s.accounts.user = .ok user ∧
      submission =
        s.client.submission owner user (s.client.token user s.day) course assignment files := by
  obtain ⟨⟨course, assignment⟩, named, ready⟩ := bind_ok ready
  obtain ⟨owner, owned, ready⟩ := bind_ok ready
  obtain ⟨files, expected, ready⟩ := bind_ok ready
  obtain ⟨user, used, same⟩ := bind_ok ready
  cases same
  exact ⟨course, assignment, owner, files, user, named, owned, expected, used, rfl⟩

theorem files_ok {i : Invocation} {files : Option (List String)}
    (expected : s.files i = .ok files) :
    files = s.listed? i ∧ ∀ names, files = some names → names.all Listing.isPlain = true := by
  cases asked : s.query? i with
  | none =>
      simp only [Scene.files, asked, Except.ok.injEq] at expected
      subst expected
      exact ⟨by simp only [listed?, asked, Option.bind_none], fun _ absent => by cases absent⟩
  | some query =>
      cases listed : s.listed? i with
      | none => simp [Scene.files, asked, listed] at expected
      | some names =>
          cases found : names.find? (!Listing.isPlain ·) with
          | some bad => simp [Scene.files, asked, listed, found] at expected
          | none =>
              simp only [Scene.files, asked, listed, found, Except.ok.injEq] at expected
              subst expected
              refine ⟨rfl, fun _ same => ?_⟩
              cases same
              simpa using found

theorem composed_upload {i : Invocation} {submission : Submission}
    (ready : s.composed i = .ok submission) :
    submission.upload = s.listed? i ∧ submission.upload.isSome = i.assignment.isSome := by
  obtain ⟨course, assignment, owner, files, user, named, owned, expected, _, rfl⟩ :=
    composed_ok ready
  obtain ⟨rfl, _⟩ := files_ok expected
  rw [(Invocation.names_ok named).2]
  cases assignment with
  | none =>
      have none : s.query? i = none := by simp only [query?, named, owned]
      simp [Client.submission, listed?, none]
  | some assignment =>
      have query : s.query? i = some (s.client.listingRequest owner course assignment) := by
        simp only [query?, named, owned]
      cases listed : s.listed? i with
      | none => simp [Scene.files, query, listed] at expected
      | some names => simp [Client.submission]

theorem attached?_form {submission : Submission} {request : Request}
    (attached : s.attached? submission = some request) :
    request.form.isSome = submission.upload.isSome := by
  cases upload : submission.upload with
  | none =>
      simp only [attached?, upload, Option.some.injEq] at attached
      rw [← attached]
      rfl
  | some names =>
      simp only [attached?, upload] at attached
      split at attached <;> cases attached
      rfl

theorem run_unattached (s : Scene σ) {i : Invocation} {submission : Submission}
    (ready : s.composed i = .ok submission) (wet : i.dryRun = false)
    (unattached : s.attached? submission = none) (out : Sink) :
    s.run i out = ⟨.error (.upload submission.files), out, s.asked i, s.tried submission.files,
      s.served i⟩ := by
  rw [s.run_submitted ready wet out, submitted, unattached, Trace.after]
  simp

theorem run_sent (s : Scene σ) {i : Invocation} {submission : Submission} {request : Request}
    (ready : s.composed i = .ok submission) (wet : i.dryRun = false)
    (attached : s.attached? submission = some request) (out : Sink) :
    s.run i out =
      ⟨(settle submission.files out (s.answer request (s.served i)).1).1.result submission.files
          s.client.timeout,
        (settle submission.files out (s.answer request (s.served i)).1).2,
        s.asked i ++ [(request, (s.answer request (s.served i)).1)], s.tried submission.files,
        (s.answer request (s.served i)).2⟩ := by
  rw [s.run_submitted ready wet out, submitted, attached]
  rfl

/-- The four ways that an invocation goes. -/
inductive Went (s : Scene σ) (i : Invocation) (out : Sink) : Trace σ → Prop
  | refused {f : Failure} : s.composed i = .error f →
      Went s i out ⟨.error f, out, s.asked i, [], s.served i⟩
  | printed {submission : Submission} : s.composed i = .ok submission → i.dryRun = true →
      Went s i out ⟨(Invocation.print submission out).1, (Invocation.print submission out).2,
        s.asked i, [], s.served i⟩
  | unattached {submission : Submission} : s.composed i = .ok submission → i.dryRun = false →
      s.attached? submission = none →
      Went s i out ⟨.error (.upload submission.files), out, s.asked i, s.tried submission.files,
        s.served i⟩
  | sent {submission : Submission} {request : Request} : s.composed i = .ok submission →
      i.dryRun = false → s.attached? submission = some request →
      Went s i out
        ⟨(settle submission.files out (s.answer request (s.served i)).1).1.result submission.files
            s.client.timeout,
          (settle submission.files out (s.answer request (s.served i)).1).2,
          s.asked i ++ [(request, (s.answer request (s.served i)).1)], s.tried submission.files,
          (s.answer request (s.served i)).2⟩

theorem went_of_run {i : Invocation} {out : Sink} {t : Trace σ} (ran : s.run i out = t) :
    Went s i out t := by
  subst ran
  cases ready : s.composed i with
  | error f =>
      rw [s.run_refused ready out]
      exact .refused ready
  | ok submission =>
      cases dry : i.dryRun with
      | true =>
          rw [s.run_printed ready dry out]
          exact .printed ready dry
      | false =>
          cases attached : s.attached? submission with
          | none =>
              rw [s.run_unattached ready dry attached out]
              exact .unattached ready dry attached
          | some request =>
              rw [s.run_sent ready dry attached out]
              exact .sent ready dry attached

theorem not_submits_query {i : Invocation} {query : Request} (present : s.query? i = some query) :
    ¬ i.submits query := by
  obtain ⟨bare, assigned⟩ := query?_some present
  rw [Invocation.submits, bare, assigned]
  exact Bool.false_ne_true

def sent? (s : Scene σ) (i : Invocation) : Option Request :=
  if i.dryRun then none else (s.composed i).toOption.bind s.attached?

def touched (s : Scene σ) (i : Invocation) : List String :=
  if i.dryRun then [] else ((s.composed i).toOption.map (s.tried ·.files)).getD []

theorem run_exchanges (s : Scene σ) (i : Invocation) (out : Sink) :
    (s.run i out).exchanges = s.asked i ++
      (s.sent? i).toList.map fun request => (request, (s.answer request (s.served i)).1) := by
  generalize ran : s.run i out = t
  cases went_of_run ran with
  | refused refused => simp [sent?, refused, Except.toOption]
  | printed ready dry => simp [sent?, dry]
  | unattached ready wet shut => simp [sent?, ready, wet, shut, Except.toOption]
  | sent ready wet attached => simp [sent?, ready, wet, attached, Except.toOption]

theorem run_paths (s : Scene σ) (i : Invocation) (out : Sink) :
    (s.run i out).paths = s.touched i := by
  generalize ran : s.run i out = t
  cases went_of_run ran with
  | refused refused => simp [touched, refused, Except.toOption]
  | printed ready dry => simp [touched, dry]
  | unattached ready wet _ => simp [touched, ready, wet, Except.toOption]
  | sent ready wet _ => simp [touched, ready, wet, Except.toOption]

theorem sent?_some {i : Invocation} {request : Request} (sent : s.sent? i = some request) :
    ∃ composed, s.composed i = .ok composed ∧ i.dryRun = false ∧
      s.attached? composed = some request := by
  cases dry : i.dryRun with
  | true => simp [sent?, dry] at sent
  | false =>
      cases ready : s.composed i with
      | error f => simp [sent?, dry, ready, Except.toOption] at sent
      | ok composed =>
          refine ⟨composed, rfl, rfl, ?_⟩
          simpa [sent?, dry, ready, Except.toOption] using sent

theorem sent?_form {i : Invocation} {request : Request} (sent : s.sent? i = some request) :
    i.submits request := by
  obtain ⟨composed, ready, _, attached⟩ := sent?_some sent
  rw [Invocation.submits, attached?_form attached, (composed_upload ready).2]

theorem sent_submission {i : Invocation} {out : Sink} {request : Request} {exchange : Exchange}
    (member : (request, exchange) ∈ (s.run i out).exchanges) (submission : i.submits request) :
    s.sent? i = some request ∧ exchange = (s.answer request (s.served i)).1 := by
  rw [run_exchanges] at member
  rcases List.mem_append.mp member with asked | sent
  · exact absurd submission (not_submits_query (mem_asked.mp asked).1)
  · obtain ⟨request', present, same⟩ := List.mem_map.mp sent
    cases same
    exact ⟨Option.mem_toList.mp present, rfl⟩

theorem print_error {submission : Submission} {out : Sink} {f : Failure}
    (failed : (Invocation.print submission out).1 = .error f) : ∃ kind, f = .output kind := by
  unfold Invocation.print at failed
  split at failed
  · cases failed
  · cases failed
    exact ⟨_, rfl⟩

variable {i : Invocation}

theorem query?_isSome {owner : String} (owned : s.accounts.owner = .ok owner)
    (named : i.WellNamed) : (s.query? i).isSome = i.assignment.isSome := by
  obtain ⟨course, assignment, names⟩ := Invocation.names_wellNamed named
  rw [(Invocation.names_ok names).2]
  cases assignment <;> simp [query?, names, owned]

theorem files_isOk_iff : (∃ files, s.files i = .ok files) ↔
    s.query? i = none ∨
      ∃ names, s.listed? i = some names ∧ ∀ n ∈ names, Listing.isPlain n = true := by
  cases present : s.query? i with
  | none => simp [Scene.files, present]
  | some query =>
      cases listed : s.listed? i with
      | none => simp [Scene.files, present, listed]
      | some names =>
          cases found : names.find? (!Listing.isPlain ·) with
          | some bad =>
              have member := List.mem_of_find?_eq_some found
              have odd : Listing.isPlain bad = false := by simpa using List.find?_some found
              simpa [Scene.files, present, listed, found] using ⟨bad, member, odd⟩
          | none =>
              have plain : ∀ n ∈ names, Listing.isPlain n = true := by simpa using found
              simpa [Scene.files, present, listed, found] using plain

theorem composed_isOk_iff {owner user : String} (accounts : s.accounts = ⟨.ok owner, .ok user⟩)
    (named : i.WellNamed) :
    (∃ submission, s.composed i = .ok submission) ↔
      i.assignment = none ∨
        ∃ names, s.listed? i = some names ∧ ∀ n ∈ names, Listing.isPlain n = true := by
  obtain ⟨course, assignment, names⟩ := Invocation.names_wellNamed named
  have composed : s.composed i = (s.files i).map (s.client.submission owner user
      (s.client.token user s.day) course assignment) := by
    simp only [Scene.composed, names, accounts]
    cases s.files i <;> rfl
  have bare : i.assignment = none ↔ s.query? i = none := by
    rw [← Option.isNone_iff_eq_none, ← Option.isNone_iff_eq_none, ← Option.not_isSome,
      ← Option.not_isSome, query?_isSome (congrArg Accounts.owner accounts) named]
  rw [composed, bare, ← files_isOk_iff]
  cases s.files i <;> simp [Except.map]

theorem attached?_isSome_iff {submission : Submission} :
    (s.attached? submission).isSome = true ↔ ∀ n ∈ submission.files, s.opens n = true := by
  cases upload : submission.upload with
  | none => simp [attached?, Submission.files, upload]
  | some names =>
      simp only [attached?, Submission.files, upload, Option.getD_some]
      rw [← List.all_eq_true]
      split <;> simp_all

theorem opens_iff {n : String} : s.opens n = true ↔
    ∃ content, s.disk.look (Disk.join s.dir n) = .file content ∧ content ≠ .unopenable := by
  unfold Scene.opens Disk.opens
  rcases s.disk.look (Disk.join s.dir n) with why | _ | b | _ | _ <;> simp

theorem composed_files {submission : Submission} (ready : s.composed i = .ok submission) :
    submission.files = (s.listed? i).getD [] := by
  rw [Submission.files, (composed_upload ready).1]

theorem listed?_none (absent : i.assignment = none) : s.listed? i = none := by
  cases present : s.query? i with
  | none => rw [listed?, present, Option.bind_none]
  | some query =>
      have assigned := (query?_some present).2
      rw [absent] at assigned
      cases assigned

theorem wellNamed_of_listed {names : List String} (listed : s.listed? i = some names) :
    i.WellNamed := by
  rcases named : i.names with f | ⟨course, assignment⟩
  · simp [listed?, query?, named] at listed
  · exact Invocation.wellNamed_of_names named

theorem sent?_isSome_iff {owner user : String} (accounts : s.accounts = ⟨.ok owner, .ok user⟩)
    (named : i.WellNamed) :
    (s.sent? i).isSome = true ↔ i.dryRun = false ∧
      (i.assignment = none ∨ ∃ names, s.listed? i = some names ∧
        ∀ n ∈ names, Listing.isPlain n = true ∧ s.opens n = true) := by
  constructor
  · intro sends
    obtain ⟨request, sent⟩ := Option.isSome_iff_exists.mp sends
    obtain ⟨submission, ready, wet, attached⟩ := sent?_some sent
    refine ⟨wet, ?_⟩
    rcases (composed_isOk_iff accounts named).mp ⟨submission, ready⟩ with
      absent | ⟨names, listed, plain⟩
    · exact .inl absent
    · have opened := attached?_isSome_iff.mp (Option.isSome_of_eq_some attached)
      rw [composed_files ready, listed, Option.getD_some] at opened
      exact .inr ⟨names, listed, fun n member => ⟨plain n member, opened n member⟩⟩
  · rintro ⟨wet, allowed⟩
    have composes : ∃ submission, s.composed i = .ok submission := by
      apply (composed_isOk_iff accounts named).mpr
      rcases allowed with absent | ⟨names, listed, good⟩
      · exact .inl absent
      · exact .inr ⟨names, listed, fun n member => (good n member).1⟩
    obtain ⟨submission, ready⟩ := composes
    have opened : ∀ n ∈ submission.files, s.opens n = true := by
      rw [composed_files ready]
      rcases allowed with absent | ⟨names, listed, good⟩
      · rw [listed?_none absent]
        intro n member
        cases member
      · rw [listed]
        exact fun n member => (good n member).2
    have attached := attached?_isSome_iff.mpr opened
    simpa [sent?, wet, ready, Except.toOption] using attached

theorem touched_eq {owner user : String} (accounts : s.accounts = ⟨.ok owner, .ok user⟩) :
    s.touched i = if i.dryRun then []
      else s.tried (((s.listed? i).filter (·.all Listing.isPlain)).getD []) := by
  cases dry : i.dryRun with
  | true => simp [touched, dry]
  | false =>
      cases ready : s.composed i with
      | ok submission =>
          obtain ⟨_, _, _, files, _, _, _, expected, _, _⟩ := composed_ok ready
          obtain ⟨rfl, plain⟩ := files_ok expected
          have kept : (s.listed? i).filter (·.all Listing.isPlain) = s.listed? i := by
            cases listed : s.listed? i with
            | none => rfl
            | some names => rw [Option.filter_some, plain names listed, if_pos rfl]
          rw [kept, ← composed_files ready]
          simp [touched, dry, ready, Except.toOption]
      | error f =>
          have dropped : (s.listed? i).filter (·.all Listing.isPlain) = none := by
            cases listed : s.listed? i with
            | none => rfl
            | some names =>
                rw [Option.filter_some, if_neg]
                intro plain
                obtain ⟨submission, composed⟩ :=
                  (composed_isOk_iff accounts (wellNamed_of_listed listed)).mpr
                    (.inr ⟨names, listed, List.all_eq_true.mp plain⟩)
                rw [ready] at composed
                cases composed
          rw [dropped]
          simp [touched, dry, ready, Except.toOption, tried]

end Scene

end Handin
