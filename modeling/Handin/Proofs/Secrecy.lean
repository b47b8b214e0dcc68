import Handin.Proofs.Composed
import Handin.Proofs.Decodable
import Handin.Proofs.Loading
import Handin.Proofs.Rehearsal
import Handin.Proofs.Token

/-! What the secret has to do with a run: it goes into the token, which stands in the address of the
submission, and nowhere else. Two runs that differ in their secrets are set side by side, from the
loading of the configuration to the end of the invocation. -/

namespace Handin

theorem map_congr {ε α β : Type} {x : Except ε α} {f g : α → β}
    (same : ∀ a, x = .ok a → f a = g a) : x.map f = x.map g := by
  cases x with
  | error => rfl
  | ok a => exact congrArg Except.ok (same a rfl)

namespace Config

def Surroundings.withSecret (around : Surroundings) (k : String) : Surroundings :=
  { around with env := fun name => if name = "CASEY_SECRET" then some k else around.env name }

def withSecret (c : Config) (k : String) : Config := { c with secret := k }

variable {k k' : String}

theorem completed_withSecret (filled : k ≠ "") (filled' : k' ≠ "") (s : Settings) :
    completed s k' = (completed s k).map (·.withSecret k') := by
  unfold completed
  rw [if_neg filled, if_neg filled']
  dsimp only
  by_cases noHost : (address s).2 = []
  · rw [if_pos noHost, if_pos noHost]
    rfl
  rw [if_neg noHost, if_neg noHost]
  rcases hostPort s (address s).2 with f | ⟨name, port⟩
  · rfl
  · by_cases noTime : s.timeoutSecs.getD defaultSecs = 0
    · simp only [noTime]
      rfl
    · simp only [noTime]
      rfl

theorem overlay_withSecret (around : Surroundings) (k : String) (s : Settings) :
    overlay (around.withSecret k).env s =
      (overlay around.env s).map ({ · with secret := some k }) := by
  have other (name : String) (different : name ≠ "CASEY_SECRET") :
      (around.withSecret k).env name = around.env name := if_neg different
  have own : (around.withSecret k).env "CASEY_SECRET" = some k := rfl
  rw [overlay_eq, overlay_eq, other "CASEY_PORT" (by decide),
    other "CASEY_TIMEOUT_SECS" (by decide), other "CASEY_SCHEME" (by decide),
    other "CASEY_HOST" (by decide), other "CASEY_SECRET_FILE" (by decide), own]
  rcases number Settings.maxPort .badPortVariable (around.env "CASEY_PORT") s.port with e | port
  · rfl
  rcases number Settings.maxSecs .badSecsVariable (around.env "CASEY_TIMEOUT_SECS") s.timeoutSecs
    with e | secs
  · rfl
  · rfl

theorem settings?_withSecret (explicit : Option String) (around : Surroundings) (k : String) :
    settings? explicit (around.withSecret k) =
      (settings? explicit around).map ({ · with secret := some k }) := by
  have path : path? explicit (around.withSecret k) = path? explicit around := rfl
  unfold settings?
  rw [path]
  dsimp only
  cases path? explicit around with
  | none => exact overlay_withSecret around k {}
  | some path =>
      have same : readSettings (around.withSecret k) path = readSettings around path := rfl
      simp only [same]
      cases readSettings around path with
      | error f => rfl
      | ok s => exact overlay_withSecret around k s

theorem load?_withSecret (explicit : Option String) (around : Surroundings) (k : String) :
    load? explicit (around.withSecret k) =
      (settings? explicit around).bind (completed · k) := by
  unfold load?
  rw [settings?_withSecret]
  cases settings? explicit around with
  | error f => rfl
  | ok s => exact resolve_eq around.disk { s with secret := some k }

theorem load_withSecret (filled : k ≠ "") (filled' : k' ≠ "") (explicit : Option String)
    (around : Surroundings) :
    load explicit (around.withSecret k') =
      (load explicit (around.withSecret k)).map (·.withSecret k') := by
  unfold load
  rw [load?_withSecret, load?_withSecret]
  cases settings? explicit around with
  | error f => rfl
  | ok s =>
      have completed := completed_withSecret filled filled' s
      simp only [Except.bind, completed]
      cases Config.completed s k <;> rfl

theorem secret_of_load (filled : k ≠ "") {explicit : Option String} {around : Surroundings}
    {c : Config} (loaded : load explicit (around.withSecret k) = .ok c) : c.secret = k := by
  have again := load_withSecret filled filled explicit around
  rw [loaded] at again
  exact congrArg Config.secret (Except.ok.inj again)

theorem baseText_withSecret (c : Config) (k : String) :
    (c.withSecret k).baseText = c.baseText := rfl

theorem describe_withSecret (c : Config) (k : String) :
    (c.withSecret k).describe = c.describe := rfl

end Config

namespace Identifier

theorem undriven (name : Identifier) (scheme : String) : Url.Undriven scheme name.text := by
  right
  rw [segment_eq]
  cases text : name.text.toList with
  | nil => rfl
  | cons a rest =>
      rcases rest with _ | ⟨b, _ | _⟩
      · rfl
      · have plain : b ≠ ':' ∧ b ≠ '|' := by
          have member : b ∈ name.text.toList := by simp [text]
          constructor <;> (rintro rfl; exact name.notMem rfl member)
        simp [Url.isDrive, plain.1, plain.2]
      · rfl

end Identifier

namespace Url

/-- Two addresses that are one but for a segment of the path. -/
structure Apart (t t' : String) (u u' : Url) : Prop where
  path : ∃ guarded front back, u.path = .segments guarded (front ++ t :: back) ∧
    u' = { u with path := .segments guarded (front ++ t' :: back) }
  text : ∃ before after, u.text = before ++ t ++ after ∧ u'.text = before ++ t' ++ after

theorem withSegments_names {u : Url} (parted : u.isFlat = false) (free : List String) :
    ∃ guarded front, ∀ names : List Identifier, u.withSegments (free ++ names.map (·.text)) =
      { u with path := .segments guarded (front ++ names.map (·.text) ++ [""]) } := by
  cases path : u.path with
  | flat text =>
      rw [isFlat, path] at parted
      cases parted
  | segments guarded list =>
      refine ⟨guarded, begun (free.foldl (push u.scheme) (if list = [] then [] else [""])),
        fun names => ?_⟩
      have spelled : ∀ s ∈ names.map (·.text), Spellable s := by
        intro s member
        obtain ⟨name, _, rfl⟩ := List.mem_map.mp member
        exact name.spellable
      have undriven : ∀ s ∈ names.map (·.text), Undriven u.scheme s := by
        intro s member
        obtain ⟨name, _, rfl⟩ := List.mem_map.mp member
        exact name.undriven u.scheme
      have plain : (names.map (·.text)).map
          (fun s => String.ofList (segment (isSpecialScheme u.scheme) s)) = names.map (·.text) := by
        rw [List.map_map]
        apply List.map_congr_left
        intro name _
        rw [Function.comp_apply, name.segment_eq, String.ofList_toList]
      cases list <;>
        simp only [withSegments, path, Path.cleared, List.foldl_append, List.foldl_cons,
          List.foldl_nil, push_empty, begun_foldl_push spelled undriven, plain, if_true,
          reduceCtorEq, if_false]

theorem apart_of_segments {u : Url} {guarded : Bool} {t t' : String} {front back : List String}
    (path : u.path = .segments guarded (front ++ t :: back)) :
    Apart t t' u { u with path := .segments guarded (front ++ t' :: back) } where
  path := ⟨guarded, front, back, path, rfl⟩
  text := by
    have joined (s : String) : segmentsText (front ++ s :: back) =
        segmentsText front ++ "/" ++ s ++ segmentsText back := by
      apply String.toList_inj.mp
      simp [toList_segmentsText]
    have around (p : Path) :
        ({ u with path := p } : Url).text = u.rootText ++ p.text ++ u.tailText := rfl
    refine ⟨u.rootText ++ ((if guarded then "/." else "") ++ (segmentsText front ++ "/")),
      segmentsText back ++ u.tailText, ?_, ?_⟩
    · simp [Url.text, path, Path.text, joined, String.append_assoc]
    · simp [around, Path.text, joined, String.append_assoc]

end Url

namespace Client

def withSecret (c : Client) (k : String) : Client := { c with secret := k }

theorem ofConfig_withSecret (config : Config) (k : String) :
    ofConfig (config.withSecret k) = (ofConfig config).map (·.withSecret k) := by
  unfold ofConfig
  rw [Config.baseText_withSecret]
  cases Url.parse config.baseText with
  | error why => rfl
  | ok url =>
      dsimp only
      cases url.isFlat <;> rfl

theorem secret_of_ofConfig {config : Config} {c : Client} (made : ofConfig config = .ok c) :
    c.secret = config.secret := by
  have again := ofConfig_withSecret config config.secret
  have same : config.withSecret config.secret = config := rfl
  rw [same, made] at again
  exact congrArg Client.secret (Except.ok.inj again)

section

variable {m : Type → Type} [Monad m] {c : Client} {k : String}

theorem listingRequest_withSecret (owner : String) (course assignment : Identifier) :
    (c.withSecret k).listingRequest owner course assignment =
      c.listingRequest owner course assignment := rfl

theorem submission_withSecret (owner user token : String) (course : Identifier)
    (assignment : Option Identifier) (files : Option (List String)) :
    (c.withSecret k).submission owner user token course assignment files =
      c.submission owner user token course assignment files := rfl

theorem expectedFiles_withSecret (w : World m) (owner : String) (course : Identifier)
    (assignment : Option Identifier) :
    Invocation.expectedFiles w (c.withSecret k) owner course assignment =
      Invocation.expectedFiles w c owner course assignment := by
  unfold Invocation.expectedFiles discover
  simp only [listingRequest_withSecret]

theorem submit_withSecret (w : World m) (r : Submission) (dir : String) (out : Sink) :
    Invocation.submit w (c.withSecret k) r dir out = Invocation.submit w c r dir out := rfl

variable {accounts : Accounts} {day : Date}
  (same : ∀ user, accounts.user = .ok user → (c.withSecret k).token user day = c.token user day)
include same

theorem compose_withSecret (w : World m) (i : Invocation) :
    i.compose w (c.withSecret k) accounts day = i.compose w c accounts day := by
  have tokens (owner : String) (course : Identifier) (assignment : Option Identifier)
      (files : Option (List String)) :
      (accounts.user.map fun user =>
        c.submission owner user ((c.withSecret k).token user day) course assignment files) =
      accounts.user.map fun user =>
        c.submission owner user (c.token user day) course assignment files := by
    apply map_congr
    intro user used
    rw [same user used]
  unfold Invocation.compose
  simp only [expectedFiles_withSecret, submission_withSecret, tokens]

theorem run_withSecret (w : World m) (i : Invocation) (dir : String) (out : Sink) :
    i.run w (c.withSecret k) accounts dir day out = i.run w c accounts dir day out := by
  unfold Invocation.run
  simp only [compose_withSecret same, submit_withSecret]

end

theorem submission_apart {c : Client} (parted : c.base.isFlat = false) (owner user : String)
    (t t' : Identifier) (course : Identifier) (assignment : Option Identifier)
    (files : Option (List String)) :
    Url.Apart t.text t'.text (c.submission owner user t.text course assignment files).url
      (c.submission owner user t'.text course assignment files).url := by
  obtain ⟨guarded, front, set⟩ := Url.withSegments_names parted [owner, user]
  have url (t : Identifier) : (c.submission owner user t.text course assignment files).url =
      { c.base with
        path := .segments guarded
          (front ++ t.text :: ((course :: assignment.toList).map (·.text) ++ [""])) } := by
    have parts : (c.submission owner user t.text course assignment files).url =
        c.base.withSegments ([owner, user] ++ (t :: course :: assignment.toList).map (·.text)) := by
      cases assignment <;> rfl
    rw [parts, set, List.append_assoc]
    rfl
  rw [url t, url t']
  exact Url.apart_of_segments rfl

end Client

namespace Scene

variable {σ σ' : Type}

def rekeyed (s : Scene σ) (k : String) (answer : Request → StateM σ' Exchange) (service : σ') :
    Scene σ' :=
  ⟨s.disk, answer, service, s.client.withSecret k, s.accounts, s.dir, s.day⟩

def SameListing (s : Scene σ) (s' : Scene σ') (i : Invocation) : Prop :=
  ∀ query, s.query? i = some query → s'.reply query = s.reply query

def SameReply (s : Scene σ) (s' : Scene σ') (i : Invocation) : Prop :=
  ∀ request request', s.sent? i = some request → s'.sent? i = some request' →
    (s'.answer request' (s'.served i)).1 = (s.answer request (s.served i)).1

/-- What an invocation does under two secrets. -/
structure Shielded (s : Scene σ) (s' : Scene σ') (i : Invocation) (out : Sink) : Prop where
  query_eq : s'.query? i = s.query? i
  composed : SameListing s s' i →
    (∃ f, s.composed i = .error f ∧ s'.composed i = .error f) ∨
      ∃ user r r', s.accounts.user = .ok user ∧ s.composed i = .ok r ∧ s'.composed i = .ok r' ∧
        r'.method = r.method ∧ r'.files = r.files ∧
        Url.Apart (token user s.day s.client.secret) (token user s.day s'.client.secret) r.url
          r'.url
  sent : SameListing s s' i →
    (s.sent? i = none ∧ s'.sent? i = none) ∨
      ∃ user request request', s.accounts.user = .ok user ∧ s.sent? i = some request ∧
        s'.sent? i = some request' ∧ request'.form = request.form ∧
        Url.Apart (token user s.day s.client.secret) (token user s.day s'.client.secret) request.url
          request'.url
  run : i.dryRun = false → SameListing s s' i → SameReply s s' i →
    (s'.run i out).result = (s.run i out).result ∧ (s'.run i out).out = (s.run i out).out

variable {s : Scene σ} {i : Invocation} {k : String} {answer : Request → StateM σ' Exchange}
  {service : σ'}

theorem query?_rekeyed : (s.rekeyed k answer service).query? i = s.query? i := rfl

theorem listed?_rekeyed (same : SameListing s (s.rekeyed k answer service) i) :
    (s.rekeyed k answer service).listed? i = s.listed? i := by
  unfold listed?
  rw [query?_rekeyed]
  cases present : s.query? i with
  | none => rfl
  | some query => rw [Option.bind_some, Option.bind_some, same query present]

theorem files_rekeyed (same : SameListing s (s.rekeyed k answer service) i) :
    (s.rekeyed k answer service).files i = s.files i := by
  unfold files
  rw [query?_rekeyed, listed?_rekeyed same]

theorem composed_rekeyed (same : SameListing s (s.rekeyed k answer service) i) :
    (∃ f, s.composed i = .error f ∧ (s.rekeyed k answer service).composed i = .error f) ∨
      ∃ user r r', s.accounts.user = .ok user ∧ s.composed i = .ok r ∧
        (s.rekeyed k answer service).composed i = .ok r' ∧ r'.upload = r.upload ∧
        (s.client.base.isFlat = false →
          Url.Apart (token user s.day s.client.secret) (token user s.day k) r.url r'.url) := by
  have expected := files_rekeyed same
  have accounts : (s.rekeyed k answer service).accounts = s.accounts := rfl
  unfold composed
  rw [expected, accounts]
  rcases i.names with f | ⟨course, assignment⟩
  · exact .inl ⟨f, rfl, rfl⟩
  rcases s.accounts.owner with f | owner
  · exact .inl ⟨f, rfl, rfl⟩
  rcases s.files i with f | files
  · exact .inl ⟨f, rfl, rfl⟩
  rcases s.accounts.user with f | user
  · exact .inl ⟨f, rfl, rfl⟩
  · -- the files do not depend on the token
    have upload (t t' : String) :
        (s.client.submission owner user t' course assignment files).upload =
          (s.client.submission owner user t course assignment files).upload := rfl
    refine .inr ⟨user, _, _, rfl, rfl, rfl, upload _ _, fun parted => ?_⟩
    exact Client.submission_apart parted owner user ⟨_, isName_token user s.day s.client.secret⟩
      ⟨_, isName_token user s.day k⟩ course assignment files

theorem attached?_rekeyed {r r' : Submission} (upload : r'.upload = r.upload) :
    (s.rekeyed k answer service).attached? r' =
      (s.attached? r).map fun request => { request with url := r'.url } := by
  unfold attached?
  rw [upload]
  cases r.upload with
  | none => rfl
  | some names =>
      have opens : (s.rekeyed k answer service).opens = s.opens := rfl
      have part : (s.rekeyed k answer service).part = s.part := rfl
      dsimp only
      rw [opens, part]
      cases names.all s.opens <;> rfl

theorem sent?_rekeyed {r r' : Submission} (ready : s.composed i = .ok r)
    (ready' : (s.rekeyed k answer service).composed i = .ok r') (upload : r'.upload = r.upload) :
    (s.rekeyed k answer service).sent? i =
      (s.sent? i).map fun request => { request with url := r'.url } := by
  unfold sent?
  rw [ready, ready']
  cases i.dryRun with
  | true => rfl
  | false => exact attached?_rekeyed upload

theorem run_rekeyed (wet : i.dryRun = false) (same : SameListing s (s.rekeyed k answer service) i)
    (reply : SameReply s (s.rekeyed k answer service) i) (out : Sink) :
    ((s.rekeyed k answer service).run i out).result = (s.run i out).result ∧
      ((s.rekeyed k answer service).run i out).out = (s.run i out).out := by
  rcases composed_rekeyed same with ⟨f, refused, refused'⟩ | ⟨_, r, r', _, ready, ready', upload, _⟩
  · rw [run_refused _ refused, run_refused _ refused']
    exact ⟨rfl, rfl⟩
  · have files : r'.files = r.files := by rw [Submission.files, upload, Submission.files]
    have sends' := sent?_rekeyed ready ready' upload
    have attached' : (s.rekeyed k answer service).attached? r' = _ := attached?_rekeyed upload
    have sends : s.sent? i = s.attached? r := by simp [sent?, wet, ready, Except.toOption]
    rw [sends] at sends'
    cases attached : s.attached? r with
    | none =>
        rw [attached] at attached'
        rw [run_unattached _ ready wet attached, run_unattached _ ready' wet attached', files]
        exact ⟨rfl, rfl⟩
    | some request =>
        rw [attached] at attached' sends sends'
        rw [run_sent _ ready wet attached, run_sent _ ready' wet attached', files,
          reply _ _ sends sends']
        exact ⟨rfl, rfl⟩

theorem shielded (parted : s.client.base.isFlat = false) (k : String)
    (answer : Request → StateM σ' Exchange) (service : σ') (i : Invocation) (out : Sink) :
    Shielded s (s.rekeyed k answer service) i out where
  query_eq := rfl
  composed same := by
    rcases composed_rekeyed same with failed | ⟨user, r, r', used, ready, ready', upload, apart⟩
    · exact .inl failed
    · refine .inr ⟨user, r, r', used, ready, ready', ?_, ?_, apart parted⟩
      · rw [Submission.method, upload, Submission.method]
      · rw [Submission.files, upload, Submission.files]
  sent same := by
    rcases composed_rekeyed same with ⟨f, refused, refused'⟩ |
      ⟨user, r, r', used, ready, ready', upload, apart⟩
    · left
      simp [sent?, refused, refused', Except.toOption]
    · have sends' := sent?_rekeyed ready ready' upload
      cases sends : s.sent? i with
      | none => exact .inl ⟨rfl, by rw [sends', sends, Option.map_none]⟩
      | some request =>
          obtain ⟨_, composed, _, attached⟩ := sent?_some sends
          cases ready.symm.trans composed
          rw [sends, Option.map_some] at sends'
          refine .inr ⟨user, request, _, used, rfl, sends', rfl, ?_⟩
          rw [(attached?_carries attached).url_eq]
          exact apart parted
  run wet same reply := run_rekeyed wet same reply out

end Scene

/-- What the secret may change: two programs whose environments differ in it alone are set side by
side. -/
structure Confined (explicit : Option String) (around : Config.Surroundings) (k k' : String) :
    Prop where
  loaded :
    (∃ f, Config.load explicit (around.withSecret k) = .error f ∧
      Config.load explicit (around.withSecret k') = .error f) ∨
    ∃ c c', Config.load explicit (around.withSecret k) = .ok c ∧
      Config.load explicit (around.withSecret k') = .ok c' ∧ c.secret = k ∧
      c' = { c with secret := k' } ∧ c'.baseText = c.baseText ∧ c'.describe = c.describe
  made (c c' : Config) : Config.load explicit (around.withSecret k) = .ok c →
    Config.load explicit (around.withSecret k') = .ok c' →
    (∃ f, Client.ofConfig c = .error f ∧ Client.ofConfig c' = .error f) ∨
    ∃ client, Client.ofConfig c = .ok client ∧ client.secret = k ∧
      Client.ofConfig c' = .ok { client with secret := k' }
  shielded (c : Config) : Config.load explicit (around.withSecret k) = .ok c →
    ∀ {σ σ' : Type} (s : Scene σ), Client.ofConfig c = .ok s.client →
      ∀ (answer : Request → StateM σ' Exchange) (service : σ') (i : Invocation) (out : Sink),
        Scene.Shielded s (s.rekeyed k' answer service) i out
  identical (c : Config) (client : Client) : Config.load explicit (around.withSecret k) = .ok c →
    Client.ofConfig c = .ok client →
    ∀ {m : Type → Type} [Monad m] (w : World m) (accounts : Accounts) (i : Invocation)
      (dir : String) (day : Date) (out : Sink),
      (∀ user, accounts.user = .ok user → token user day k = token user day k') →
        i.run w { client with secret := k' } accounts dir day out =
          i.run w client accounts dir day out

/-- The secret shows in the token, and in nothing else. -/
theorem secret_confined {k k' : String} (filled : k ≠ "") (filled' : k' ≠ "")
    (explicit : Option String) (around : Config.Surroundings) : Confined explicit around k k' := by
  have twice := Config.load_withSecret filled filled' explicit around
  constructor
  case loaded =>
    cases loaded : Config.load explicit (around.withSecret k) with
    | error f => exact .inl ⟨f, rfl, by rw [twice, loaded]; rfl⟩
    | ok c =>
        have secret := Config.secret_of_load filled loaded
        exact .inr ⟨c, c.withSecret k', rfl, by rw [twice, loaded]; rfl, secret, rfl,
          Config.baseText_withSecret c k', Config.describe_withSecret c k'⟩
  case made =>
    intro c c' loaded loaded'
    rw [twice, loaded] at loaded'
    cases loaded'
    have alike := Client.ofConfig_withSecret c k'
    cases made : Client.ofConfig c with
    | error f => exact .inl ⟨f, rfl, by rw [alike, made]; rfl⟩
    | ok client =>
        have secret := (Client.secret_of_ofConfig made).trans (Config.secret_of_load filled loaded)
        exact .inr ⟨client, rfl, secret, by rw [alike, made]; rfl⟩
  case shielded =>
    intro c loaded σ σ' s made answer service i out
    exact Scene.shielded (Client.ofConfig_ok made).2 k' answer service i out
  case identical =>
    intro c client loaded made m _ w accounts i dir day out same
    refine Client.run_withSecret (fun user used => ?_) w i dir out
    have secret := (Client.secret_of_ofConfig made).trans (Config.secret_of_load filled loaded)
    rw [Client.token, Client.token, secret]
    exact (same user used).symm

theorem secret_confined_small : Confined none (Config.surroundings "grader.example") "k" "l" :=
  secret_confined (by decide) (by decide) none _

end Handin
