import Handin.Invocation

/-! Invocations in a recorded world, and what each comes to: its result, its output, the exchanges it
takes part in and the files it looks at, as functions of the replies and the files it meets. -/

namespace Handin

namespace Disk

def opens (d : Disk) (path : String) : Bool :=
  match d.look path with
  | .file .unopenable => false
  | .file _ => true
  | _ => false

def bytes? (d : Disk) (path : String) : Option Bytes :=
  match d.look path with
  | .file (.bytes b) => some b
  | _ => none

end Disk

def Exchange.listed? (exchange : Exchange) : Option (List String) :=
  (Listing.ofExchange exchange).toOption.join

namespace Event

def exchange? : Event → Option (Request × Exchange)
  | sent request exchange => some (request, exchange)
  | _ => none

def path? : Event → Option String
  | looked path _ => some path
  | _ => none

end Event

namespace Record

variable {σ : Type}

def exchanges (r : Record σ) : List (Request × Exchange) := r.events.filterMap Event.exchange?

def paths (r : Record σ) : List String := r.events.filterMap Event.path?

def serve (r : Record σ) (service : σ) : Record σ := { r with service }

/-- How one record goes on where another stopped. -/
structure Grown (r r' : Record σ) (exchanges : List (Request × Exchange)) (paths : List String)
    (service : σ) : Prop where
  exchanges_eq : r'.exchanges = r.exchanges ++ exchanges
  paths_eq : r'.paths = r.paths ++ paths
  service_eq : r'.service = service

namespace Grown

theorem refl (r : Record σ) : r.Grown r [] [] r.service :=
  ⟨(List.append_nil _).symm, (List.append_nil _).symm, rfl⟩

theorem trans {r r' r'' : Record σ} {exchanges exchanges' : List (Request × Exchange)}
    {paths paths' : List String} {service service' : σ} (first : r.Grown r' exchanges paths service)
    (second : r'.Grown r'' exchanges' paths' service') :
    r.Grown r'' (exchanges ++ exchanges') (paths ++ paths') service' where
  exchanges_eq := by rw [second.exchanges_eq, first.exchanges_eq, List.append_assoc]
  paths_eq := by rw [second.paths_eq, first.paths_eq, List.append_assoc]
  service_eq := second.service_eq

theorem add (r : Record σ) (e : Event) :
    r.Grown (r.add e) e.exchange?.toList e.path?.toList r.service where
  exchanges_eq := by
    rw [exchanges, Record.add, List.filterMap_append]
    cases e <;> rfl
  paths_eq := by
    rw [paths, Record.add, List.filterMap_append]
    cases e <;> rfl
  service_eq := rfl

theorem serve (r : Record σ) (service : σ) : r.Grown (r.serve service) [] [] service :=
  ⟨(List.append_nil _).symm, (List.append_nil _).symm, rfl⟩

end Grown

end Record

/-- Everything that an invocation runs against, the service in the state it is in before. -/
structure Scene (σ : Type) where
  disk : Disk
  answer : Request → StateM σ Exchange
  service : σ
  client : Client
  accounts : Accounts
  dir : String
  day : Date

/-- What an invocation leaves behind. The requests, each with what came of it, and the paths that
were looked at are told first things first. -/
@[ext]
structure Trace (σ : Type) where
  result : Except Failure Unit
  out : Sink
  exchanges : List (Request × Exchange)
  paths : List String
  service : σ

def Trace.after {σ : Type} (t : Trace σ) (exchanges : List (Request × Exchange)) : Trace σ :=
  { t with exchanges := exchanges ++ t.exchanges }

namespace Scene

variable {σ : Type} (s : Scene σ)

def world : World (StateM (Record σ)) := .recorded s.disk s.answer

def run (i : Invocation) (out : Sink) : Trace σ :=
  let ((result, out), record) :=
    (i.run s.world s.client s.accounts s.dir s.day out).run ⟨s.service, []⟩
  ⟨result, out, record.exchanges, record.paths, record.service⟩

def query? (i : Invocation) : Option Request :=
  match i.names, s.accounts.owner with
  | .ok (course, some assignment), .ok owner =>
    some (s.client.listingRequest owner course assignment)
  | _, _ => none

def reply (query : Request) : Exchange := (s.answer query s.service).1

def asked (i : Invocation) : List (Request × Exchange) :=
  (s.query? i).toList.map fun query => (query, s.reply query)

def served (i : Invocation) : σ :=
  match s.query? i with
  | none => s.service
  | some query => (s.answer query s.service).2

def listed? (i : Invocation) : Option (List String) :=
  (s.query? i).bind fun query => (s.reply query).listed?

def files (i : Invocation) : Except Failure (Option (List String)) :=
  match s.query? i, s.listed? i with
  | none, _ => .ok none
  | some _, none => .error .discovery
  | some _, some names =>
    match names.find? (!Listing.isPlain ·) with
    | some bad => .error (.unsafeName bad)
    | none => .ok (some names)

def composed (i : Invocation) : Except Failure Submission := do
  let (course, assignment) ← i.names
  let owner ← s.accounts.owner
  let files ← s.files i
  let user ← s.accounts.user
  return s.client.submission owner user (s.client.token user s.day) course assignment files

def opens (name : String) : Bool := s.disk.opens (Disk.join s.dir name)

def part (name : String) : Part := ⟨name, name, s.disk.bytes? (Disk.join s.dir name)⟩

/-- The paths that are looked at: up to the first that cannot be opened. -/
def tried : List String → List String
  | [] => []
  | name :: rest => Disk.join s.dir name :: if s.opens name then tried rest else []

def attached? (submission : Submission) : Option Request :=
  match submission.upload with
  | none => some { url := submission.url }
  | some names =>
    if names.all s.opens then some ⟨submission.url, some (names.map s.part)⟩ else none

def settle (files : List String) (out : Sink) : Exchange → Outcome × Sink
  | .failed why => (.ofSendFault files why, out)
  | .answered status body => (.ofRelay status (relay body out).outcome, (relay body out).sink)

def submitted (service : σ) (out : Sink) (submission : Submission) : Trace σ :=
  match s.attached? submission with
  | none => ⟨.error (.upload submission.files), out, [], s.tried submission.files, service⟩
  | some request =>
    let answered := s.answer request service
    let settled := settle submission.files out answered.1
    ⟨settled.1.result submission.files s.client.timeout, settled.2, [(request, answered.1)],
      s.tried submission.files, answered.2⟩

theorem run_bind {τ α β : Type} (x : StateM τ α) (f : α → StateM τ β) (t : τ) :
    (x >>= f).run t = (f (x.run t).1).run (x.run t).2 := rfl

theorem run_pure {τ α : Type} (a : α) (t : τ) : (pure a : StateM τ α).run t = (a, t) := rfl

theorem run_note (level : Level) (text : String) (r : Record σ) :
    (s.world.note level text).run r = ((), r.add (.noted level text)) := rfl

theorem run_look (path : String) (r : Record σ) :
    (s.world.look path).run r = (s.disk.look path, r.add (.looked path (s.disk.look path))) := rfl

theorem run_send (q : Request) (r : Record σ) :
    (s.world.send q).run r =
      ((s.answer q r.service).1,
        (r.serve (s.answer q r.service).2).add (.sent q (s.answer q r.service).1)) := rfl

theorem grown_sent (before after : Level × String) (q : Request) (exchange : Exchange) (service : σ)
    (r : Record σ) :
    r.Grown ((((r.add (.noted before.1 before.2)).serve service).add (.sent q exchange)).add
      (.noted after.1 after.2)) [(q, exchange)] [] service :=
  (((Record.Grown.add r _).trans (.serve _ service)).trans (.add _ _)).trans (.add _ _)

theorem discover_run {owner : String} {course assignment : Identifier} {q : Request}
    (query : s.client.listingRequest owner course assignment = q) (r : Record σ) :
    ((s.client.discover s.world owner course assignment).run r).1 =
        (s.answer q r.service).1.listed? ∧
      r.Grown ((s.client.discover s.world owner course assignment).run r).2
        [(q, (s.answer q r.service).1)] [] (s.answer q r.service).2 := by
  simp only [Client.discover, query, run_bind, run_note, run_send]
  have same : (r.add (.noted .debug "querying file names")).service = r.service := rfl
  rw [same, Exchange.listed?]
  cases Listing.ofExchange (s.answer q r.service).1 with
  | ok names =>
      exact ⟨rfl, grown_sent (.debug, "querying file names") (.debug, "file names") _ _ _ r⟩
  | error trouble =>
      exact ⟨rfl, grown_sent (.debug, "querying file names") (.warn, trouble.message) _ _ _ r⟩

theorem attach?_run (name : String) (r : Record σ) :
    ((Submission.attach? s.world s.dir name).run r).1 =
        (if s.opens name then some (s.part name) else none) ∧
      r.Grown ((Submission.attach? s.world s.dir name).run r).2 [] [Disk.join s.dir name]
        r.service := by
  have looked := Record.Grown.add r
    (.looked (Disk.join s.dir name) (s.disk.look (Disk.join s.dir name)))
  rcases found : s.disk.look (Disk.join s.dir name) with why | _ | b | _ | _
  all_goals
    simp only [Submission.attach?, run_bind, run_look, run_note, run_pure, opens, part, Disk.opens,
      Disk.bytes?, found] at looked ⊢
    refine ⟨rfl, ?_⟩
  · exact looked.trans (.add _ (.noted .warn "file not found"))
  · exact looked.trans (.add _ (.noted .warn "file not found"))
  · exact looked
  · exact looked
  · exact looked.trans (.add _ (.noted .warn "cannot open file"))

theorem attachAll?_run (names : List String) (r : Record σ) :
    ((Submission.attachAll? s.world s.dir names).run r).1 =
        (if names.all s.opens then some (names.map s.part) else none) ∧
      r.Grown ((Submission.attachAll? s.world s.dir names).run r).2 [] (s.tried names)
        r.service := by
  induction names generalizing r with
  | nil => exact ⟨rfl, .refl r⟩
  | cons name rest ih =>
      obtain ⟨first, grown⟩ := s.attach?_run name r
      by_cases opened : s.opens name = true
      · obtain ⟨others, more⟩ := ih ((Submission.attach? s.world s.dir name).run r).2
        rw [grown.service_eq] at more
        simp only [Submission.attachAll?, run_bind, run_pure, first, others, opened, tried, if_true,
          List.all_cons, Bool.true_and]
        refine ⟨?_, grown.trans more⟩
        by_cases all : rest.all s.opens = true <;> simp only [all, if_true] <;> rfl
      · simp only [Submission.attachAll?, run_bind, first, opened, tried, List.all_cons,
          Bool.false_and]
        exact ⟨rfl, grown⟩

theorem request?_run (submission : Submission) (r : Record σ) :
    ((submission.request? s.world s.dir).run r).1 = s.attached? submission ∧
      r.Grown ((submission.request? s.world s.dir).run r).2 [] (s.tried submission.files)
        r.service := by
  rcases upload : submission.upload with _ | names
  · simp only [Submission.request?, Submission.files, attached?, upload]
    exact ⟨rfl, .refl r⟩
  · obtain ⟨parts, grown⟩ := s.attachAll?_run names r
    simp only [Submission.request?, Submission.files, attached?, upload, run_bind, run_pure, parts]
    refine ⟨?_, grown⟩
    by_cases all : names.all s.opens = true <;> simp only [all, if_true] <;> rfl

theorem deliver_run (files : List String) (request : Request) (out : Sink) (r : Record σ) :
    ((Submission.deliver s.world files request out).run r).1 =
        settle files out (s.answer request r.service).1 ∧
      r.Grown ((Submission.deliver s.world files request out).run r).2
        [(request, (s.answer request r.service).1)] [] (s.answer request r.service).2 := by
  simp only [Submission.deliver, run_bind, run_note, run_send]
  have same : (r.add (.noted .debug "dispatching")).service = r.service := rfl
  rw [same]
  cases (s.answer request r.service).1 with
  | failed why =>
      exact ⟨rfl, grown_sent (.debug, "dispatching") (.warn, "request failed") _ _ _ r⟩
  | answered status body =>
      cases success : isSuccess status
      all_goals
        simp only [success, Bool.not_true, Bool.not_false, Bool.false_eq_true, if_true, if_false,
          run_bind, run_note, run_pure]
        refine ⟨rfl, ?_⟩
      · exact (grown_sent (.debug, "dispatching")
          (.warn, "service returned an error status") _ _ _ r).trans (.add _ (.noted _ _))
      · exact grown_sent (.debug, "dispatching") (Submission.relayNote _) _ _ _ r

theorem submit_run (submission : Submission) (out : Sink) (r : Record σ) :
    ((Invocation.submit s.world s.client submission s.dir out).run r).1 =
        ((s.submitted r.service out submission).result, (s.submitted r.service out submission).out) ∧
      r.Grown ((Invocation.submit s.world s.client submission s.dir out).run r).2
        (s.submitted r.service out submission).exchanges
        (s.submitted r.service out submission).paths
        (s.submitted r.service out submission).service := by
  obtain ⟨attached, tried⟩ := s.request?_run submission (r.add (.noted .info "sending request"))
  have noted := (Record.Grown.add r (.noted .info "sending request")).trans tried
  simp only [Invocation.submit, Submission.dispatch, submitted, run_bind, run_note, attached]
  cases s.attached? submission with
  | none => exact ⟨rfl, noted⟩
  | some request =>
      obtain ⟨settled, grown⟩ := s.deliver_run submission.files request out
        ((submission.request? s.world s.dir).run (r.add (.noted .info "sending request"))).2
      rw [noted.service_eq] at settled grown
      have sent := noted.trans grown
      -- once the files are open, no path is looked at
      have tail : [] ++ s.tried submission.files ++ [] = s.tried submission.files :=
        List.append_nil _
      simp only [run_pure, settled]
      exact ⟨rfl, tail ▸ sent⟩

theorem expectedFiles_run {i : Invocation} {owner : String} {course : Identifier}
    {assignment : Option Identifier} (named : i.names = .ok (course, assignment))
    (owned : s.accounts.owner = .ok owner) {r : Record σ} (fresh : r.service = s.service) :
    ((Invocation.expectedFiles s.world s.client owner course assignment).run r).1 = s.files i ∧
      r.Grown ((Invocation.expectedFiles s.world s.client owner course assignment).run r).2
        (s.asked i) [] (s.served i) := by
  cases assignment with
  | none =>
      have none : s.query? i = none := by simp only [query?, named, owned]
      simp only [Invocation.expectedFiles, files, asked, served, none]
      exact ⟨rfl, fresh ▸ .refl r⟩
  | some assignment =>
      have query : s.query? i = some (s.client.listingRequest owner course assignment) := by
        simp only [query?, named, owned]
      obtain ⟨listed, grown⟩ := s.discover_run
        (rfl : s.client.listingRequest owner course assignment = _) r
      rw [fresh] at listed grown
      simp only [Invocation.expectedFiles, run_bind, listed, files, asked, served, listed?, query,
        reply, Option.bind_some]
      cases (s.answer (s.client.listingRequest owner course assignment) s.service).1.listed? with
      | none => exact ⟨rfl, grown⟩
      | some names =>
          dsimp only
          cases names.find? (!Listing.isPlain ·) <;> exact ⟨rfl, grown⟩

theorem compose_run (i : Invocation) :
    ((i.compose s.world s.client s.accounts s.day).run ⟨s.service, []⟩).1 = s.composed i ∧
      Record.Grown ⟨s.service, []⟩
        ((i.compose s.world s.client s.accounts s.day).run ⟨s.service, []⟩).2
        (s.asked i) [] (s.served i) := by
  rcases named : i.names with f | ⟨course, assignment⟩
  · have none : s.query? i = none := by simp only [query?, named]
    simp only [Invocation.compose, composed, asked, served, named, none]
    exact ⟨rfl, .refl _⟩
  · rcases owned : s.accounts.owner with f | owner
    · have none : s.query? i = none := by simp only [query?, named, owned]
      simp only [Invocation.compose, composed, asked, served, named, owned, none]
      exact ⟨rfl, .refl _⟩
    · obtain ⟨expected, grown⟩ := s.expectedFiles_run named owned
        (rfl : (Record.add (.noted .debug "validated") ⟨s.service, []⟩).service = s.service)
      have noted := (Record.Grown.add _ (.noted .debug "validated")).trans grown
      simp only [Invocation.compose, composed, named, owned, run_bind, run_note, expected]
      cases s.files i with
      | error f => exact ⟨rfl, noted⟩
      | ok files => cases s.accounts.user <;> exact ⟨rfl, noted⟩

theorem run_of_grown {i : Invocation} {out : Sink} {t : Trace σ}
    (ends : ((i.run s.world s.client s.accounts s.dir s.day out).run ⟨s.service, []⟩).1 =
      (t.result, t.out))
    (grown : Record.Grown ⟨s.service, []⟩
      ((i.run s.world s.client s.accounts s.dir s.day out).run ⟨s.service, []⟩).2
      t.exchanges t.paths t.service) :
    s.run i out = t := by
  obtain ⟨exchanges, paths, service⟩ := grown
  simp only [run]
  rcases ran : (i.run s.world s.client s.accounts s.dir s.day out).run ⟨s.service, []⟩ with
    ⟨ending, record⟩
  rw [ran] at ends exchanges paths service
  dsimp only at ends exchanges paths service
  simp only [ends, exchanges, paths, service]
  rfl

theorem run_refused {i : Invocation} {f : Failure} (refused : s.composed i = .error f)
    (out : Sink) : s.run i out = ⟨.error f, out, s.asked i, [], s.served i⟩ := by
  obtain ⟨composed, grown⟩ := s.compose_run i
  apply run_of_grown
  all_goals simp only [Invocation.run, run_bind, composed, refused, run_pure]
  exact grown

theorem run_printed {i : Invocation} {submission : Submission}
    (ready : s.composed i = .ok submission) (dry : i.dryRun = true) (out : Sink) :
    s.run i out = ⟨(Invocation.print submission out).1, (Invocation.print submission out).2,
      s.asked i, [], s.served i⟩ := by
  obtain ⟨composed, grown⟩ := s.compose_run i
  apply run_of_grown
  all_goals simp only [Invocation.run, run_bind, composed, ready, dry, if_true, run_pure]
  exact grown

theorem run_submitted {i : Invocation} {submission : Submission}
    (ready : s.composed i = .ok submission) (wet : i.dryRun = false) (out : Sink) :
    s.run i out = (s.submitted (s.served i) out submission).after (s.asked i) := by
  obtain ⟨composed, grown⟩ := s.compose_run i
  obtain ⟨submitted, more⟩ := s.submit_run submission out
    ((i.compose s.world s.client s.accounts s.day).run ⟨s.service, []⟩).2
  rw [grown.service_eq] at submitted more
  apply run_of_grown
  all_goals simp only [Invocation.run, run_bind, composed, ready, wet, Bool.false_eq_true, if_false]
  · exact submitted
  · exact grown.trans more

def small : Scene Unit where
  disk := ⟨fun path =>
    if path = "/w/a.c" then .file (.bytes [1, 2])
    else if path = "/w/b.h" then .file (.bytes [3])
    else .absent .notFound⟩
  answer request :=
    return .answered 200 [.data (Text.utf8 (if request.form.isSome then "ok" else "a.c b.h a.c"))]
  service := ()
  client :=
    { base := ⟨"http", some { host := .name "h" }, .segments false [""], none, none⟩
      secret := "k"
      timeout := 5000 }
  accounts := ⟨.ok "prof", .ok "alice"⟩
  dir := "/w"
  day := ⟨2024, 3, 7, by decide⟩

end Scene

end Handin
