import Handin.Command
import Handin.Proofs.Gating
import Handin.Proofs.Loading
import Handin.Proofs.Rehearsal
import Handin.Proofs.Settlement

namespace Handin

namespace Scene

variable {σ : Type} {s : Scene σ} {i : Invocation} {out : Sink}

theorem print_ok {submission : Submission} (endless : out.room? = none) :
    (Invocation.print submission out).1 = .ok () := by
  rcases out.writeAll_cases submission.line with ⟨_, _, delivered⟩ | ⟨_, _, _, stuck⟩
  · exact (print_delivered delivered).1
  · obtain ⟨_, room, free, _⟩ := Sink.stuck_taken stuck
    rw [endless] at free
    cases free

theorem run_written (endless : out.room? = none) {f : Failure}
    (failed : (s.run i out).result = .error f) :
    ∃ written, (s.run i out).out.taken = out.taken ++ written ∧
      (written = [] ∨ ∃ request exchange, (request, exchange) ∈ (s.run i out).exchanges ∧
        i.submits request ∧ written <+: exchange.delivered) := by
  generalize ran : s.run i out = t at failed ⊢
  cases went_of_run ran with
  | refused => exact ⟨[], (List.append_nil _).symm, .inl rfl⟩
  | printed =>
      rw [print_ok endless] at failed
      cases failed
  | unattached => exact ⟨[], (List.append_nil _).symm, .inl rfl⟩
  | @sent submission request ready wet attached =>
      obtain ⟨front, part, taken⟩ := (settle_settled submission.files s.client.timeout out
        (s.answer request (s.served i)).1).front
      refine ⟨front, taken, .inr ⟨request, _, List.mem_append_right _ List.mem_cons_self, ?_, part⟩⟩
      rw [Invocation.submits, attached?_form attached, (composed_upload ready).2]

end Scene

namespace Command

variable {σ : Type}

def scene (c : Command) (answer : Request → StateM σ Exchange) (service : σ) (client : Client)
    (folder : String) : Scene σ :=
  ⟨c.around.disk, answer, service, client, c.accounts, folder, c.day⟩

def play (c : Command) (answer : Request → StateM σ Exchange) (service : σ) : Ending × Record σ :=
  (c.run (.recorded c.around.disk answer)).run ⟨service, []⟩

/-- What the options come to: a result, what went to the output and the record. Each thing is looked
at only when all before it are in order. -/
inductive Comes (c : Command) (o : Options) (answer : Request → StateM σ Exchange) (service : σ) :
    Except Stop Unit → Bytes → Record σ → Prop
  | misnamed {f : Failure} : (invocation o).names = .error f →
      Comes c o answer service (.error (.failure f)) [] ⟨service, []⟩
  | unloaded {f : Failure} : (invocation o).WellNamed → Config.load o.config c.around = .error f →
      Comes c o answer service (.error (.failure f)) [] ⟨service, []⟩
  | unaddressed {config : Config} {f : Failure} : (invocation o).WellNamed →
      Config.load o.config c.around = .ok config → Client.ofConfig config = .error f →
      Comes c o answer service (.error (.failure f)) [] ⟨service, []⟩
  | homeless {config : Config} {client : Client} : (invocation o).WellNamed →
      Config.load o.config c.around = .ok config → Client.ofConfig config = .ok client →
      c.folder = none → Comes c o answer service (.error .noFolder) [] ⟨service, []⟩
  | ran {config : Config} {client : Client} {folder : String} : (invocation o).WellNamed →
      Config.load o.config c.around = .ok config → Client.ofConfig config = .ok client →
      c.folder = some folder →
      Comes c o answer service
        (((c.scene answer service client folder).run (invocation o) {}).result.mapError .failure)
        ((c.scene answer service client folder).run (invocation o) {}).out.taken
        ((c.scene answer service client folder).steps (invocation o) {}).2

variable {c : Command} {o : Options} {answer : Request → StateM σ Exchange} {service : σ}

theorem execute_refused {w : World (StateM (Record σ))} {f : Failure}
    (refused : c.client o = .error f) (r : Record σ) :
    (execute w c o).run r = ((.error (.failure f), []), r) := by
  unfold execute
  rw [refused]
  rfl

theorem execute_homeless {w : World (StateM (Record σ))} {client : Client}
    (ready : c.client o = .ok client) (homeless : c.folder = none) (r : Record σ) :
    (execute w c o).run r = ((.error .noFolder, []), r) := by
  unfold execute
  rw [ready, homeless]
  rfl

theorem execute_ran {client : Client} {folder : String} (ready : c.client o = .ok client)
    (placed : c.folder = some folder) :
    (execute (.recorded c.around.disk answer) c o).run ⟨service, []⟩ =
      ((((c.scene answer service client folder).run (invocation o) {}).result.mapError .failure,
        ((c.scene answer service client folder).run (invocation o) {}).out.taken),
        ((c.scene answer service client folder).steps (invocation o) {}).2) := by
  unfold execute
  rw [ready, placed]
  rfl

theorem client_misnamed {f : Failure} (refused : (invocation o).names = .error f) :
    c.client o = .error f := by
  unfold client
  rw [refused]
  rfl

theorem client_named (named : (invocation o).WellNamed) :
    c.client o = (Config.load o.config c.around).bind Client.ofConfig := by
  obtain ⟨course, assignment, names⟩ := Invocation.names_wellNamed named
  unfold client
  rw [names]
  rfl

theorem client_unloaded {f : Failure} (named : (invocation o).WellNamed)
    (loaded : Config.load o.config c.around = .error f) : c.client o = .error f := by
  rw [client_named named, loaded]
  rfl

theorem client_loaded {config : Config} (named : (invocation o).WellNamed)
    (loaded : Config.load o.config c.around = .ok config) :
    c.client o = Client.ofConfig config := by
  rw [client_named named, loaded]
  rfl

theorem comes_iff {result : Except Stop Unit} {written : Bytes} {record : Record σ} :
    Comes c o answer service result written record ↔
      (execute (.recorded c.around.disk answer) c o).run ⟨service, []⟩ =
        ((result, written), record) := by
  constructor
  · intro came
    cases came with
    | misnamed names => exact execute_refused (client_misnamed names) _
    | unloaded named loaded => exact execute_refused (client_unloaded named loaded) _
    | unaddressed named loaded made =>
        exact execute_refused ((client_loaded named loaded).trans made) _
    | homeless named loaded made homeless =>
        exact execute_homeless ((client_loaded named loaded).trans made) homeless _
    | ran named loaded made placed =>
        exact execute_ran ((client_loaded named loaded).trans made) placed
  · intro ran
    -- the first thing that is not in order tells how it came
    rcases names : (invocation o).names with f | ⟨course, assignment⟩
    · rw [execute_refused (client_misnamed names)] at ran
      cases ran
      exact .misnamed names
    have named := Invocation.wellNamed_of_names names
    rcases loaded : Config.load o.config c.around with f | config
    · rw [execute_refused (client_unloaded named loaded)] at ran
      cases ran
      exact .unloaded named loaded
    have client := client_loaded named loaded
    rcases made : Client.ofConfig config with f | made'
    · rw [execute_refused (client.trans made)] at ran
      cases ran
      exact .unaddressed named loaded made
    rcases placed : c.folder with _ | folder
    · rw [execute_homeless (client.trans made) placed] at ran
      cases ran
      exact .homeless named loaded made placed
    · rw [execute_ran (client.trans made) placed] at ran
      cases ran
      exact .ran named loaded made placed

theorem comes_total (c : Command) (o : Options) (answer : Request → StateM σ Exchange)
    (service : σ) : ∃ result written record, Comes c o answer service result written record :=
  ⟨_, _, _, comes_iff.mpr rfl⟩

theorem comes_written {stop : Stop} {written : Bytes} {record : Record σ}
    (came : Comes c o answer service (.error stop) written record) :
    written = [] ∨ ∃ request exchange, (request, exchange) ∈ record.exchanges ∧
      (invocation o).submits request ∧ written <+: exchange.delivered := by
  generalize same : (Except.error stop : Except Stop Unit) = result at came
  cases came with
  | misnamed | unloaded | unaddressed | homeless => exact .inl rfl
  | @ran config client folder _ _ _ _ =>
      rcases ending : ((c.scene answer service client folder).run (invocation o) {}).result with
        f | _
      · obtain ⟨front, taken, source⟩ := Scene.run_written rfl ending
        rw [taken]
        exact source
      · rw [ending] at same
        cases same

theorem play_stopped {stop : Options.Stop} (stopped : Options.parse c.argv.tail = .error stop) :
    (c.play answer service).1.status = if stop.isAsked then 0 else failureStatus := by
  unfold play run
  rw [stopped]
  cases stop <;> rfl

theorem play_ok {written : Bytes} {record : Record σ} (parsed : Options.parse c.argv.tail = .ok o)
    (came : Comes c o answer service (.ok ()) written record) :
    c.play answer service = (⟨0, written, ""⟩, record) := by
  unfold play run
  rw [parsed]
  simp only [Scene.run_bind, comes_iff.mp came]
  rfl

theorem play_error {stop : Stop} {written : Bytes} {record : Record σ}
    (parsed : Options.parse c.argv.tail = .ok o)
    (came : Comes c o answer service (.error stop) written record) :
    c.play answer service =
      (⟨failureStatus, written ++ Text.utf8 (reportLine c.program stop.message), ""⟩, record) := by
  unfold play run
  rw [parsed]
  simp only [Scene.run_bind, comes_iff.mp came]
  rfl

theorem play_failed {f : Failure} (parsed : Options.parse c.argv.tail = .ok o)
    (came : Comes c o answer service (.error (.failure f)) [] ⟨service, []⟩) :
    c.play answer service =
      (⟨failureStatus, Text.utf8 (reportLine c.program f.message), ""⟩, ⟨service, []⟩) :=
  play_error parsed came

theorem reportLine_unparsed (program path wording : String) :
    reportLine program (Failure.config ("cannot parse " ++ path ++ ": " ++ wording)).message =
      "[" ++ program ++ "] Invalid configuration: cannot parse " ++ path ++ ": " ++ wording ++
        "\n" := by
  have words : "] Invalid configuration: cannot parse " =
      "] " ++ ("Invalid configuration: " ++ "cannot parse ") := by decide +kernel
  change "[" ++ program ++ "] " ++
    ("Invalid configuration: " ++ ("cannot parse " ++ path ++ ": " ++ wording)) ++ "\n" = _
  rewrite [words]
  simp only [String.append_assoc]

theorem play_unparsed (c : Command) (answer : Request → StateM σ Exchange) (service : σ)
    {path text : String} {complaint : Settings.Complaint}
    (parsed : Options.parse c.argv.tail = .ok o) (named : (invocation o).WellNamed)
    (found : Config.path? o.config c.around = some path)
    (read : c.around.disk.readText path = .ok text)
    (refused : Settings.ofToml text = .error complaint) :
    c.play answer service = (⟨failureStatus, Text.utf8 ("[" ++ c.program ++
      "] Invalid configuration: cannot parse " ++ path ++ ": " ++
        c.around.wording text complaint ++ "\n"), ""⟩, ⟨service, []⟩) := by
  have loaded := Config.load_unparsed found read refused
  have ended : c.play answer service = _ := play_failed parsed (.unloaded named loaded)
  rewrite [reportLine_unparsed] at ended
  exact ended

theorem isAsked_iff {stop : Options.Stop} :
    stop.isAsked = true ↔ stop = .help ∨ stop = .version := by
  cases stop <;> simp [Options.Stop.isAsked]

def Succeeds (c : Command) (answer : Request → StateM σ Exchange) (service : σ) : Prop :=
  Options.parse c.argv.tail = .error .help ∨ Options.parse c.argv.tail = .error .version ∨
    ∃ o written record, Options.parse c.argv.tail = .ok o ∧
      Comes c o answer service (.ok ()) written record

theorem play_status (c : Command) (answer : Request → StateM σ Exchange) (service : σ) :
    (c.play answer service).1.status = 0 ∧ c.Succeeds answer service ∨
      (c.play answer service).1.status = 255 ∧ ¬ c.Succeeds answer service := by
  unfold Succeeds
  rcases parsed : Options.parse c.argv.tail with stop | o
  · rw [play_stopped parsed]
    by_cases asked : stop.isAsked = true
    · rcases isAsked_iff.mp asked with rfl | rfl
      · exact .inl ⟨rfl, .inl rfl⟩
      · exact .inl ⟨rfl, .inr (.inl rfl)⟩
    · rw [if_neg asked]
      rw [isAsked_iff] at asked
      refine .inr ⟨rfl, ?_⟩
      rintro (help | version | ⟨o, _, _, other, _⟩)
      · exact asked (.inl (Except.error.inj help))
      · exact asked (.inr (Except.error.inj version))
      · cases other
  · obtain ⟨result, written, record, came⟩ := comes_total c o answer service
    rcases result with stop | _
    · rw [play_error parsed came]
      refine .inr ⟨rfl, ?_⟩
      rintro (help | version | ⟨o', _, _, same, came'⟩)
      · cases help
      · cases version
      · -- the options come to one thing only
        cases same
        cases (comes_iff.mp came).symm.trans (comes_iff.mp came')
    · rw [play_ok parsed came]
      exact .inl ⟨rfl, .inr (.inr ⟨o, written, record, rfl, came⟩)⟩

theorem client_frame {disk : Disk}
    (same : ∀ path ∈ c.configFiles o, disk.look path = c.around.disk.look path) :
    client { c with around := { c.around with disk } } o = c.client o := by
  rcases names : (invocation o).names with f | ⟨course, assignment⟩
  · rw [client_misnamed names, client_misnamed names]
  · have named := Invocation.wellNamed_of_names names
    have loaded : Config.load o.config { c.around with disk } = Config.load o.config c.around := by
      apply Config.load_frame
      intro path member
      apply same path
      rwa [configFiles, names]
    rw [client_named named, client_named named, loaded]

/-- How the command ends, and what it leaves in the record. -/
structure Ended (c : Command) (answer : Request → StateM σ Exchange) (service : σ) : Prop where
  status_eq_zero_iff : (c.play answer service).1.status = 0 ↔ c.Succeeds answer service
  status_eq_failure_iff : (c.play answer service).1.status = 255 ↔ ¬ c.Succeeds answer service
  comes (o : Options) : ∃! came : (Except Stop Unit × Bytes) × Record σ,
    Comes c o answer service came.1.1 came.1.2 came.2
  succeeded (o : Options) (written : Bytes) (record : Record σ) :
    Options.parse c.argv.tail = .ok o → Comes c o answer service (.ok ()) written record →
      (c.play answer service).1.output = written ∧ (c.play answer service).2 = record
  failed (o : Options) (stop : Stop) (written : Bytes) (record : Record σ) :
    Options.parse c.argv.tail = .ok o → Comes c o answer service (.error stop) written record →
      (c.play answer service).1.output = written ++
          Text.utf8 ("[" ++ c.argv.head?.getD "casey" ++ "] " ++ stop.message ++ "\n") ∧
        (c.play answer service).2 = record ∧
        (written = [] ∨ ∃ request exchange, (request, exchange) ∈ record.exchanges ∧
          (invocation o).submits request ∧ written <+: exchange.delivered)
  /-- A file that does not parse is reported in the wording of its surroundings, all lines of it. -/
  unparsed (o : Options) (path text : String) (complaint : Settings.Complaint) :
    Options.parse c.argv.tail = .ok o → (invocation o).WellNamed →
      Config.path? o.config c.around = some path → c.around.disk.readText path = .ok text →
      Settings.ofToml text = .error complaint →
        (c.play answer service).1.output = Text.utf8 ("[" ++ c.argv.head?.getD "casey" ++
            "] Invalid configuration: cannot parse " ++ path ++ ": " ++
            c.around.wording text complaint ++ "\n") ∧
          (c.play answer service).2 = ⟨service, []⟩
  configFiles (o : Options) (disk : Disk) :
    (∀ path ∈ c.configFiles o, disk.look path = c.around.disk.look path) →
      client { c with around := { c.around with disk } } o = c.client o
  /-- Names that are missing or malformed stop the command before it looks at anything: it ends
  alike whatever stands in its surroundings and whatever the service is. -/
  misnamed (o : Options) : Options.parse c.argv.tail = .ok o → ¬ (invocation o).WellNamed →
    ∀ {τ : Type} (c' : Command) (answer' : Request → StateM τ Exchange) (service' : τ),
      c'.argv = c.argv →
        (c'.play answer' service').1 = (c.play answer service).1 ∧
          (c'.play answer' service').2 = ⟨service', []⟩ ∧ c'.configFiles o = []

/-- Whatever the command line, the surroundings and the service are, the command ends in one of
these ways. -/
theorem play_ended (c : Command) (answer : Request → StateM σ Exchange) (service : σ) :
    Ended c answer service := by
  have status := c.play_status answer service
  constructor
  case status_eq_zero_iff =>
    rcases status with ⟨zero, done⟩ | ⟨failure, undone⟩
    · exact iff_of_true zero done
    · rw [failure]
      exact iff_of_false (by decide) undone
  case status_eq_failure_iff =>
    rcases status with ⟨zero, done⟩ | ⟨failure, undone⟩
    · rw [zero]
      exact iff_of_false (by decide) (not_not_intro done)
    · exact iff_of_true failure undone
  case comes =>
    intro o
    refine ⟨_, comes_iff.mpr rfl, fun came comes => ?_⟩
    exact (comes_iff.mp comes).symm
  case succeeded =>
    intro o written record parsed came
    rw [play_ok parsed came]
    exact ⟨rfl, rfl⟩
  case failed =>
    intro o stop written record parsed came
    rw [play_error parsed came]
    exact ⟨rfl, rfl, comes_written came⟩
  case unparsed =>
    intro o path text complaint parsed named found read refused
    have ended := c.play_unparsed answer service parsed named found read refused
    exact ⟨congrArg (fun ended => ended.1.output) ended, congrArg Prod.snd ended⟩
  case configFiles => exact fun o disk same => client_frame same
  case misnamed =>
    intro o parsed bad τ c' answer' service' same
    rcases names : (invocation o).names with f | ⟨course, assignment⟩
    · have parsed' : Options.parse c'.argv.tail = .ok o := by rw [same, parsed]
      have program : c'.program = c.program := by rw [Command.program, same, Command.program]
      rw [play_failed parsed (.misnamed names), play_failed parsed' (.misnamed names), program,
        Command.configFiles, names]
      exact ⟨rfl, rfl, rfl⟩
    · exact absurd (Invocation.wellNamed_of_names names) bad

end Command

end Handin
