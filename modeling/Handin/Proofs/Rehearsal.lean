import Handin.Proofs.Composed
import Handin.Proofs.Described
import Handin.Proofs.Discovery
import Handin.Proofs.Sink

/-! Dry runs: the request that a dry run prints is the one that the same invocation sends. -/

namespace Handin

namespace Invocation

def dry (i : Invocation) : Invocation := { i with dryRun := true }

def wet (i : Invocation) : Invocation := { i with dryRun := false }

end Invocation

namespace Submission

def line (r : Submission) : Bytes := Text.utf8 (r.describe ++ "\n")

theorem Built.eq_of_line {r r' : Submission} (built : r.Built) (built' : r'.Built)
    (same : r'.line = r.line) : r' = r := by
  have text := Text.utf8_inj.mp same
  rw [String.append_left_inj] at text
  exact built.eq_of_describe built' text

structure Carries (r : Submission) (request : Request) : Prop where
  url_eq : request.url = r.url
  method_eq : methodName request.form.isSome = r.method
  files_eq : request.form.map (·.map Part.file) = r.upload

end Submission

namespace Scene

variable {σ : Type} (s : Scene σ) (i : Invocation)

def steps (out : Sink) : (Except Failure Unit × Sink) × Record σ :=
  (i.run s.world s.client s.accounts s.dir s.day out).run ⟨s.service, []⟩

/-- Neither run gets as far as a request: both fail alike, and write nothing. -/
structure Broken (f : Failure) (out out' : Sink) : Prop where
  dry_eq : s.run i.dry out = ⟨.error f, out, s.asked i, [], s.served i⟩
  wet_eq : s.run i.wet out' = ⟨.error f, out', s.asked i, [], s.served i⟩

/-- Both runs come to the request `r`, after the same query. The dry one prints it and does no more;
the other one goes on to send it from where the dry one stops. -/
structure Rehearsed (r : Submission) (out out' : Sink) : Prop where
  upload_eq : r.upload = s.listed? i
  posts_iff : r.upload.isSome = i.assignment.isSome
  url_eq : ∃ owner user course, s.accounts = ⟨.ok owner, .ok user⟩ ∧ i.course = some course ∧
    r.url = s.client.url ([owner, user, s.client.token user s.day, course] ++ i.assignment.toList)
  /-- The line in full: the files stand in the order of the service, each as a part. -/
  line_eq : r.line = Text.utf8 ((if i.assignment.isSome then "POST" else "GET") ++ " " ++
    r.url.text ++ String.join (((s.listed? i).getD []).map fun n => " -F " ++ n ++ "=@" ++ n) ++
    "\n")
  line_tells (config : Config) : Client.ofConfig config = .ok s.client →
    Url.IsWeb s.client.base.scheme → ∀ r' : Submission, r'.Built → r'.line = r.line → r' = r
  dry_exchanges : (s.run i.dry out).exchanges = s.asked i
  dry_paths : (s.run i.dry out).paths = []
  dry_total : (∃ out₁, out.Delivered r.line out₁) ∨ ∃ kind out₁, out.Stuck r.line kind out₁
  dry_delivered (out₁ : Sink) : out.Delivered r.line out₁ →
    (s.run i.dry out).result = .ok () ∧ (s.run i.dry out).out.taken = out.taken ++ r.line
  dry_stuck (kind : Fault.Kind) (out₁ : Sink) : out.Stuck r.line kind out₁ →
    (s.run i.dry out).result = .error (.output kind) ∧
      ∃ front back, back ≠ [] ∧ front ++ back = r.line ∧
        (s.run i.dry out).out.taken = out.taken ++ front
  wet_steps : s.steps i.wet out' =
    (Invocation.submit s.world s.client r s.dir out').run (s.steps i.dry out).2
  wet_exchanges : ∃ sent, (s.run i.wet out').exchanges = s.asked i ++ sent ∧
    ∀ pair ∈ sent, r.Carries pair.1

variable {s} {i}

theorem attached?_carries {r : Submission} {request : Request}
    (attached : s.attached? r = some request) : r.Carries request := by
  cases upload : r.upload with
  | none =>
      simp only [attached?, upload, Option.some.injEq] at attached
      subst attached
      exact ⟨rfl, by rw [Submission.method, upload]; rfl, upload.symm⟩
  | some names =>
      simp only [attached?, upload] at attached
      split at attached <;> cases attached
      have files : (names.map s.part).map Part.file = names := by
        rw [List.map_map]
        exact List.map_id names
      refine ⟨rfl, by rw [Submission.method, upload]; rfl, ?_⟩
      rw [Option.map_some, files, upload]

theorem composed_url {r : Submission} (ready : s.composed i = .ok r) :
    ∃ owner user course, s.accounts = ⟨.ok owner, .ok user⟩ ∧ i.course = some course ∧
      r.url = s.client.url
        ([owner, user, s.client.token user s.day, course] ++ i.assignment.toList) := by
  obtain ⟨course, assignment, owner, files, user, named, owned, _, used, rfl⟩ := composed_ok ready
  obtain ⟨given, asked⟩ := Invocation.names_ok named
  refine ⟨owner, user, course.text, ?_, given, ?_⟩
  · rw [← owned, ← used]
  · rw [asked]
    rfl

theorem composed_built {r : Submission} (ready : s.composed i = .ok r) {config : Config}
    (made : Client.ofConfig config = .ok s.client) (web : Url.IsWeb s.client.base.scheme) :
    r.Built where
  made := by
    obtain ⟨course, assignment, owner, files, user, _, _, _, _, rfl⟩ := composed_ok ready
    exact ⟨config, s.client, made, web,
      ⟨owner, user, s.client.token user s.day, course, assignment⟩, files, rfl⟩
  listed := by
    rw [composed_files ready]
    cases listed : s.listed? i with
    | none => exact .inl rfl
    | some names =>
        obtain ⟨query, _, brought⟩ := Option.bind_eq_some_iff.mp listed
        obtain ⟨reply, brings⟩ := Exchange.brings_of_listed? brought
        exact .inr ⟨reply, (Exchange.listed?_of_brings brings).symm.trans brought⟩

theorem print_delivered {r : Submission} {out out₁ : Sink} (delivered : out.Delivered r.line out₁) :
    (Invocation.print r out).1 = .ok () ∧
      (Invocation.print r out).2.taken = out.taken ++ r.line := by
  have taken := (Sink.delivered_taken delivered).2
  obtain ⟨ending, same⟩ := Sink.writeAll_of_delivered delivered
  unfold Invocation.print
  rw [← Submission.line]
  rcases written : out.writeAll r.line with ⟨_ | _, out₂⟩ <;> rw [written] at ending same
  · cases ending
  · exact ⟨rfl, same.trans taken⟩

theorem print_stuck {r : Submission} {out out₁ : Sink} {kind : Fault.Kind}
    (stuck : out.Stuck r.line kind out₁) :
    (Invocation.print r out).1 = .error (.output kind) ∧
      ∃ front back, back ≠ [] ∧ front ++ back = r.line ∧
        (Invocation.print r out).2.taken = out.taken ++ front := by
  obtain ⟨ending, _⟩ := Sink.writeAll_of_stuck stuck
  unfold Invocation.print
  rw [← Submission.line]
  rcases written : out.writeAll r.line with ⟨_ | _, out₂⟩ <;> rw [written] at ending
  · cases ending
    exact ⟨rfl, Sink.writeAll_error written⟩
  · cases ending

theorem steps_eq (s : Scene σ) {i : Invocation} {r : Submission} (ready : s.composed i = .ok r)
    (out out' : Sink) :
    s.steps i.wet out' =
      (Invocation.submit s.world s.client r s.dir out').run (s.steps i.dry out).2 := by
  have composed := (s.compose_run i).1
  let before := ((i.compose s.world s.client s.accounts s.day).run ⟨s.service, []⟩).2
  -- composing does not look at the flag: both runs part only after it
  have parted (j : Invocation) (out : Sink)
      (same : j.compose s.world s.client s.accounts s.day =
        i.compose s.world s.client s.accounts s.day) :
      s.steps j out = (if j.dryRun then pure (Invocation.print r out)
        else Invocation.submit s.world s.client r s.dir out : StateM (Record σ) _).run before := by
    simp only [steps, Invocation.run, run_bind, same, composed, ready]
    rfl
  have dry : (s.steps i.dry out).2 = before := by
    rw [parted i.dry out rfl]
    rfl
  rw [dry, parted i.wet out' rfl]
  rfl

theorem rehearsed (s : Scene σ) {i : Invocation} {r : Submission} (ready : s.composed i = .ok r)
    (out out' : Sink) : s.Rehearsed i r out out' := by
  obtain ⟨upload, posts⟩ := composed_upload ready
  have printed := s.run_printed (i := i.dry) ready rfl out
  constructor
  case upload_eq => exact upload
  case posts_iff => exact posts
  case url_eq => exact composed_url ready
  case line_eq =>
    rw [Submission.line, Submission.describe, Submission.method, methodName, composed_files ready,
      posts]
  case line_tells =>
    intro config made web r' built same
    exact (composed_built ready made web).eq_of_line built same
  case dry_exchanges => rw [printed]; rfl
  case dry_paths => rw [printed]
  case dry_total =>
    rcases out.writeAll_cases r.line with ⟨out₁, _, delivered⟩ | ⟨kind, out₁, _, stuck⟩
    · exact .inl ⟨out₁, delivered⟩
    · exact .inr ⟨kind, out₁, stuck⟩
  case dry_delivered =>
    intro out₁ delivered
    rw [printed]
    exact print_delivered delivered
  case dry_stuck =>
    intro kind out₁ stuck
    rw [printed]
    exact print_stuck stuck
  case wet_steps => exact s.steps_eq ready out out'
  case wet_exchanges =>
    refine ⟨(s.sent? i.wet).toList.map fun request =>
      (request, (s.answer request (s.served i.wet)).1), s.run_exchanges i.wet out', ?_⟩
    intro pair member
    obtain ⟨request, sent, rfl⟩ := List.mem_map.mp member
    obtain ⟨r', ready', _, attached⟩ := sent?_some (Option.mem_toList.mp sent)
    have same : r' = r := Except.ok.inj (ready'.symm.trans ready)
    exact same ▸ attached?_carries attached

/-- A dry run fails as the invocation would have failed before it sends anything, or prints the request
that the invocation sends. -/
theorem run_rehearsed (s : Scene σ) (i : Invocation) (out out' : Sink) :
    (∃ f, s.Broken i f out out') ∨ ∃ r, s.Rehearsed i r out out' := by
  cases ready : s.composed i with
  | error f =>
      exact .inl ⟨f, s.run_refused (i := i.dry) ready out, s.run_refused (i := i.wet) ready out'⟩
  | ok r => exact .inr ⟨r, s.rehearsed ready out out'⟩

end Scene

end Handin
