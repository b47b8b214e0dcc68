import Handin.Http.Message
import Handin.Proofs.Composed
import Handin.Proofs.Listing

/-! What stands between an invocation and its requests: the names, the list of files and the files
themselves, each checked before the next thing is done. -/

namespace Handin

/-- What an invocation does before its submission is answered. `discovery` and `submission` are the
requests that it makes, each with what came of it. -/
structure Gated {σ : Type} (s : Scene σ) (i : Invocation) (out : Sink) (t : Trace σ)
    (discovery submission : Option (Request × Exchange)) : Prop where
  exchanges_eq : t.exchanges = discovery.toList ++ submission.toList
  no_course : i.course = none →
    t = ⟨.error (.usage "Course number required"), out, [], [], s.service⟩
  bad_course (raw : String) : i.course = some raw → ¬ WellNamed raw →
    t = ⟨.error (.usage ("Invalid course: " ++ raw)), out, [], [], s.service⟩
  bad_assignment (course raw : String) : i.course = some course → WellNamed course →
    i.assignment = some raw → ¬ WellNamed raw →
      t = ⟨.error (.usage ("Invalid assignment: " ++ raw)), out, [], [], s.service⟩
  discovery_iff : i.WellNamed → (discovery.isSome = true ↔ i.assignment.isSome = true)
  discovery_gets (request : Request) (exchange : Exchange) :
    discovery = some (request, exchange) →
      request.form = none ∧ (Http.Message.ofRequest request).method = "GET" ∧
        exchange = s.reply request
  submission_iff : i.WellNamed →
    (submission.isSome = true ↔ i.dryRun = false ∧
      (i.assignment = none ∨ ∃ names, discovery.bind (·.2.listed?) = some names ∧
        ∀ n ∈ names, Ordinary n ∧
          ∃ content, s.disk.look (Disk.join s.dir n) = .file content ∧ content ≠ .unopenable))
  submission_posts (request : Request) (exchange : Exchange) :
    submission = some (request, exchange) →
      request.form.isSome = i.assignment.isSome ∧
        (Http.Message.ofRequest request).method = if i.assignment.isSome then "POST" else "GET"
  paths_eq : t.paths =
    if i.dryRun then []
    else s.tried (((discovery.bind (·.2.listed?)).filter (·.all Listing.isPlain)).getD [])
  untouched (f : Failure) : t.result = .error f → submission = none →
    (i.dryRun = true → ∀ kind, f ≠ .output kind) → t.out = out

namespace Scene

variable {σ : Type} {s : Scene σ} {i : Invocation}

theorem refused_names {f : Failure} (refused : i.names = .error f) (out : Sink) :
    s.run i out = ⟨.error f, out, [], [], s.service⟩ := by
  have none : s.query? i = none := by simp only [query?, refused]
  have ended : s.composed i = .error f := by
    simp only [Scene.composed, refused]
    rfl
  rw [s.run_refused ended out]
  simp [asked, served, none]

theorem untouched {out : Sink} {f : Failure} (failed : (s.run i out).result = .error f)
    (unsent : s.sent? i = none) (undry : i.dryRun = true → ∀ kind, f ≠ .output kind) :
    (s.run i out).out = out := by
  generalize ran : s.run i out = t at failed ⊢
  cases went_of_run ran with
  | refused => rfl
  | printed ready dry =>
      obtain ⟨kind, same⟩ := print_error failed
      exact absurd same (undry dry kind)
  | unattached => rfl
  | sent ready wet attached => simp [sent?, ready, wet, attached, Except.toOption] at unsent

theorem bind_listed? (s : Scene σ) (i : Invocation) :
    (((s.query? i).map fun query => (query, s.reply query)).bind (·.2.listed?)) = s.listed? i := by
  rw [listed?]
  cases s.query? i <;> rfl

theorem ofRequest_form (request : Request) :
    (Http.Message.ofRequest request).form = request.form := by
  unfold Http.Message.ofRequest
  split <;> rfl

/-- With the accounts known, an invocation takes at most a query and a submission, in this order and
each only once all that goes before it is in order. -/
theorem run_gated {owner user : String} (s : Scene σ)
    (accounts : s.accounts = ⟨.ok owner, .ok user⟩) (i : Invocation) (out : Sink) :
    ∃ discovery submission, Gated s i out (s.run i out) discovery submission := by
  refine ⟨(s.query? i).map fun query => (query, s.reply query),
    (s.sent? i).map fun request => (request, (s.answer request (s.served i)).1), ?_⟩
  constructor
  case exchanges_eq =>
    rw [run_exchanges, asked]
    cases s.query? i <;> cases s.sent? i <;> rfl
  case no_course =>
    intro absent
    exact refused_names (Invocation.names_no_course absent) out
  case bad_course =>
    intro raw given bad
    exact refused_names (Invocation.names_bad_course given bad) out
  case bad_assignment =>
    intro course raw given good asked bad
    exact refused_names (Invocation.names_bad_assignment given good asked bad) out
  case discovery_iff =>
    intro named
    rw [Option.isSome_map, query?_isSome (congrArg Accounts.owner accounts) named]
  case discovery_gets =>
    intro request exchange same
    obtain ⟨query, present, pair⟩ := Option.map_eq_some_iff.mp same
    cases pair
    have bare := (query?_some present).1
    rw [Http.Message.method, ofRequest_form, bare]
    exact ⟨rfl, rfl, rfl⟩
  case submission_iff =>
    intro named
    rw [Option.isSome_map, sent?_isSome_iff accounts named, bind_listed?]
    simp only [opens_iff, isPlain_iff]
  case submission_posts =>
    intro request exchange same
    obtain ⟨request, present, pair⟩ := Option.map_eq_some_iff.mp same
    cases pair
    have submits := sent?_form present
    rw [Http.Message.method, ofRequest_form, submits]
    exact ⟨rfl, rfl⟩
  case paths_eq => rw [run_paths, touched_eq accounts, bind_listed?]
  case untouched =>
    intro f failed unsent undry
    exact untouched failed (Option.map_eq_none_iff.mp unsent) undry

theorem run_gated_small : ∃ discovery submission,
    Gated small ⟨some "c1", some "a1", false⟩ {} (small.run ⟨some "c1", some "a1", false⟩ {})
      discovery submission :=
  small.run_gated rfl _ _

end Scene

end Handin
