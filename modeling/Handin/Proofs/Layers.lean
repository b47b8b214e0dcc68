import Handin.Proofs.Spelling

/-! The layers of the configuration: variables over a file over what is built in. One masks the other
key by key, and a secret or a scheme that is set masks the key that would otherwise be asked. -/

namespace Handin.Config

inductive Key
  | scheme
  | host
  | port
  | secret
  | secretFile
  | timeoutSecs
  deriving DecidableEq

namespace Key

def variableName : Key → String
  | scheme => "CASEY_SCHEME"
  | host => "CASEY_HOST"
  | port => "CASEY_PORT"
  | secret => "CASEY_SECRET"
  | secretFile => "CASEY_SECRET_FILE"
  | timeoutSecs => "CASEY_TIMEOUT_SECS"

/-- Two layers agree on a key: both set it to one value, or neither sets it. -/
def Same (k : Key) (s t : Settings) : Prop :=
  match k with
  | scheme => s.scheme = t.scheme
  | host => s.host = t.host
  | port => s.port = t.port
  | secret => s.secret = t.secret
  | secretFile => s.secretFile = t.secretFile
  | timeoutSecs => s.timeoutSecs = t.timeoutSecs

theorem variableName_injective {j k : Key} (same : j.variableName = k.variableName) : j = k := by
  cases j <;> cases k <;> first | rfl | exact absurd same (by decide)

theorem eq_of_same {s t : Settings} (same : ∀ k : Key, k.Same s t) : s = t := by
  obtain ⟨scheme, host, port, secret, secretFile, timeoutSecs⟩ := s
  obtain ⟨scheme', host', port', secret', secretFile', timeoutSecs'⟩ := t
  cases same .scheme
  cases same .host
  cases same .port
  cases same .secret
  cases same .secretFile
  cases same .timeoutSecs
  rfl

theorem Same.trans {k : Key} {s t u : Settings} (same : k.Same s t) (more : k.Same t u) :
    k.Same s u := by
  cases k <;> exact Eq.trans same more

end Key

section Overlay

variable {env env' : String → Option String} {f f' : Settings}

/-- A key is settled alike by two layers of variables, each over a file. -/
def Key.Settled (k : Key) (env env' : String → Option String) (f f' : Settings) : Prop :=
  env k.variableName = env' k.variableName ∧ (env k.variableName = none → k.Same f f')

theorem or_settled {value value' under under' : Option String} (same : value = value')
    (unset : value = none → under = under') : value.or under = value'.or under' := by
  subst same
  cases value with
  | none => rw [unset rfl]
  | some v => rfl

theorem number_settled (bound : Nat) (fault : String → Fault) (value : Option String)
    (under under' : Option Nat) :
    (∃ e, number bound fault value under = .error e ∧ number bound fault value under' = .error e) ∨
      ∃ n n', number bound fault value under = .ok n ∧ number bound fault value under' = .ok n' ∧
        ((value = none → under = under') → n = n') := by
  cases value with
  | none => exact .inr ⟨under, under', rfl, rfl, fun unset => unset rfl⟩
  | some v =>
      simp only [number]
      cases Text.unsigned? bound v.toList with
      | none => exact .inl ⟨fault v, rfl, rfl⟩
      | some n => exact .inr ⟨some n, some n, rfl, rfl, fun _ => rfl⟩

theorem overlay_settled (f f' : Settings) (port : env "CASEY_PORT" = env' "CASEY_PORT")
    (secs : env "CASEY_TIMEOUT_SECS" = env' "CASEY_TIMEOUT_SECS") :
    (∃ e, overlay env f = .error e ∧ overlay env' f' = .error e) ∨
      ∃ t t', overlay env f = .ok t ∧ overlay env' f' = .ok t' ∧
        ∀ k : Key, k.Settled env env' f f' → k.Same t t' := by
  rw [overlay_eq, overlay_eq, ← port, ← secs]
  rcases number_settled Settings.maxPort .badPortVariable (env "CASEY_PORT") f.port f'.port with
    ⟨e, bad, bad'⟩ | ⟨p, p', ports, ports', samePort⟩
  · rw [bad, bad']
    exact .inl ⟨e, rfl, rfl⟩
  rcases number_settled Settings.maxSecs .badSecsVariable (env "CASEY_TIMEOUT_SECS") f.timeoutSecs
    f'.timeoutSecs with ⟨e, bad, bad'⟩ | ⟨n, n', times, times', sameSecs⟩
  · rw [ports, ports', bad, bad']
    exact .inl ⟨e, rfl, rfl⟩
  rw [ports, ports', times, times']
  refine .inr ⟨_, _, rfl, rfl, fun k ⟨same, unset⟩ => ?_⟩
  cases k with
  | port => exact samePort unset
  | timeoutSecs => exact sameSecs unset
  | scheme => exact or_settled same unset
  | host => exact or_settled same unset
  | secret => exact or_settled same unset
  | secretFile => exact or_settled same unset

theorem overlay_texts {t : Settings} (laid : overlay env f = .ok t) :
    t.scheme = (env "CASEY_SCHEME").or f.scheme ∧ t.host = (env "CASEY_HOST").or f.host ∧
      t.secret = (env "CASEY_SECRET").or f.secret ∧
      t.secretFile = (env "CASEY_SECRET_FILE").or f.secretFile := by
  rw [overlay_eq] at laid
  obtain ⟨port, _, laid⟩ := bind_ok laid
  obtain ⟨secs, _, same⟩ := bind_ok laid
  cases same
  exact ⟨rfl, rfl, rfl, rfl⟩

theorem overlay_unset {t : Settings} (laid : overlay env f = .ok t) {k : Key}
    (unset : env k.variableName = none) : k.Same t f := by
  rw [overlay_eq] at laid
  obtain ⟨port, ports, laid⟩ := bind_ok laid
  obtain ⟨secs, times, same⟩ := bind_ok laid
  cases same
  simp only [Key.variableName] at unset
  cases k with
  | port =>
      rw [unset] at ports
      exact (Except.ok.inj ports).symm
  | timeoutSecs =>
      rw [unset] at times
      exact (Except.ok.inj times).symm
  | scheme => simp [Key.Same, unset]
  | host => simp [Key.Same, unset]
  | secret => simp [Key.Same, unset]
  | secretFile => simp [Key.Same, unset]

end Overlay

theorem getD_congr {α : Type} {x y : Option α} {default : α}
    (either : x = y ∨ x = none ∧ y = some default) : x.getD default = y.getD default := by
  rcases either with rfl | ⟨rfl, rfl⟩ <;> rfl

section Resolve

variable {t t' : Settings}

theorem address_congr (host : t.host.getD defaultHost = t'.host.getD defaultHost)
    (scheme : HasScheme (t.host.getD defaultHost).toList ∨
      t.scheme.getD defaultScheme = t'.scheme.getD defaultScheme) : address t = address t' := by
  rcases cut : splitScheme? (t.host.getD defaultHost).toList with _ | ⟨front, rest⟩
  · have same := scheme.resolve_left fun has => by
      simp [← splitScheme?_isSome_iff, cut] at has
    rw [address_unschemed cut, address_unschemed (host ▸ cut), host, same]
  · rw [address_schemed cut, address_schemed (host ▸ cut)]

def namedPort? (host : List Char) : Option Nat :=
  match splitPort host with
  | .ok (some (_, port)) => some port
  | _ => none

theorem hostPort_unset {host : List Char} (unset : t.port = none)
    (given : t'.port = some ((namedPort? host).getD defaultPort)) :
    hostPort t host = hostPort t' host := by
  rcases parted : splitPort host with e | _ | ⟨name, port⟩
  · simp only [hostPort, parted]
    rfl
  · have default : namedPort? host = none := by simp only [namedPort?, parted]
    rw [default, Option.getD_none] at given
    rw [hostPort_whole t parted, hostPort_whole t' parted, unset, given]
    rfl
  · have named : namedPort? host = some port := by simp only [namedPort?, parted]
    rw [named, Option.getD_some] at given
    rw [hostPort_named t parted, hostPort_named t' parted, unset, given]
    simp

theorem hostPort_congr {host : List Char} (port : t.port = t'.port) :
    hostPort t host = hostPort t' host := by
  unfold hostPort
  rw [port]

theorem completed_congr {secret : String} (addressed : address t = address t')
    (ported : hostPort t (address t).2 = hostPort t' (address t).2)
    (timed : t.timeoutSecs.getD defaultSecs = t'.timeoutSecs.getD defaultSecs) :
    completed t secret = completed t' secret := by
  rcases made : address t with ⟨scheme, host⟩
  rw [made] at addressed ported
  dsimp only at ported
  unfold completed
  rw [made, ← addressed, ← timed]
  dsimp only
  rw [ported]

theorem sharedSecret_inline {disk : Disk} {secret : String} (inline : t.secret = some secret) :
    sharedSecret disk t = .ok secret := by
  unfold sharedSecret
  rw [inline]

theorem completed_parts {secret : String} {c : Config} (done : completed t secret = .ok c) :
    c.scheme = String.ofList (address t).1 ∧
      hostPort t (address t).2 = .ok (c.host.toList, c.port) ∧
      c.timeout = t.timeoutSecs.getD defaultSecs * 1000 := by
  have filled : secret ≠ "" := by
    rintro rfl
    cases done
  have named : (address t).2 ≠ [] := (completed_ok done).2.2.1
  rcases made : address t with ⟨scheme, host⟩
  rw [made] at named
  rw [completed_addressed filled made named] at done
  obtain ⟨⟨name, port⟩, parted, built⟩ := bind_ok done
  dsimp only at built
  split at built
  · cases built
  · cases built
    exact ⟨rfl, by simpa using parted, rfl⟩

theorem hostPort_unset_ok {host name : List Char} {port : Nat} (unset : t.port = none)
    (parted : hostPort t host = .ok (name, port)) :
    port = (namedPort? host).getD defaultPort := by
  rcases cut : splitPort host with e | _ | ⟨front, own⟩
  · rw [hostPort, cut] at parted
    cases parted
  · rw [hostPort_whole t cut, unset] at parted
    cases parted
    simp only [namedPort?, cut]
  · rw [hostPort_named t cut, unset] at parted
    cases parted
    simp only [namedPort?, cut]
    rfl

theorem resolve_congr {disk disk' : Disk} (shared : sharedSecret disk t = sharedSecret disk' t')
    (completes : ∀ secret, completed t secret = completed t' secret) :
    resolve disk t = resolve disk' t' := by
  rw [resolve_eq, resolve_eq, shared]
  exact congrArg _ (funext completes)

theorem address_snd_congr (host : t.host.getD defaultHost = t'.host.getD defaultHost) :
    (address t).2 = (address t').2 := by
  rcases cut : splitScheme? (t.host.getD defaultHost).toList with _ | ⟨front, rest⟩
  · rw [address_unschemed cut, address_unschemed (host ▸ cut), host]
  · rw [address_schemed cut, address_schemed (host ▸ cut)]

end Resolve

def layer? (explicit : Option String) (around : Surroundings) : Except Fault Settings :=
  match path? explicit around with
  | some path => readSettings around path
  | none => .ok {}

theorem settings?_eq (explicit : Option String) (around : Surroundings) :
    settings? explicit around = (layer? explicit around).bind (overlay around.env) := by
  unfold settings? layer?
  cases path? explicit around <;> rfl

/-- What is loaded from: variables, and a file that parses or no file at all. -/
structure Source where
  explicit : Option String
  around : Surroundings
  file : Settings
  layer?_eq : layer? explicit around = .ok file

namespace Source

variable (a b : Source)

def env : String → Option String := a.around.env

def load : Except Failure Config := Config.load a.explicit a.around

def Sets (k : Key) : Prop := a.env k.variableName ≠ none ∨ ¬ k.Same a.file {}

def host : String := ((a.env "CASEY_HOST").or a.file.host).getD defaultHost

def namedPort? : Option Nat := Config.namedPort? (address { host := some a.host }).2

/-- What the keys that are not set count as. A port that the host names goes before the default
one, and there is no secret. -/
def builtIn : Settings where
  scheme := some "http"
  host := some "localhost"
  port := some (a.namedPort?.getD 5005)
  timeoutSecs := some 300

/-- If the secret is read from a file, both disks have the same there, as they do if they are one
disk that has both configuration files. -/
def SameSecretFile : Prop :=
  ¬ a.Sets .secret → ∀ path, secretPath? a.explicit a.around = some path →
    a.around.disk.look path = b.around.disk.look path

structure ApartFrom (k : Key) : Prop where
  env_eq (name : String) : name ≠ k.variableName → a.env name = b.env name
  file_same (j : Key) : j ≠ k → j.Same a.file b.file

structure Defaulted (c : Config) : Prop where
  scheme : ¬ a.Sets .scheme → ¬ HasScheme a.host.toList → c.scheme = "http"
  host : ¬ a.Sets .host → c.host = "localhost"
  port : ¬ a.Sets .port → c.port = a.namedPort?.getD 5005
  timeout : ¬ a.Sets .timeoutSecs → c.timeout = 300 * 1000

/-- What loading makes of its layers, failing or not: which sources load alike, and what stands in
for keys that are not set. -/
structure Layered : Prop where
  key_by_key (b : Source) : a.env = b.env → a.SameSecretFile b →
    (∀ k : Key, a.env k.variableName = none → k.Same a.file b.file) → a.load = b.load
  inline_secret (b : Source) : a.ApartFrom b .secretFile → a.Sets .secret → a.load = b.load
  host_scheme (b : Source) : a.ApartFrom b .scheme → a.SameSecretFile b →
    HasScheme a.host.toList → a.load = b.load
  unset (b : Source) (k : Key) : a.ApartFrom b k → a.env = b.env → a.SameSecretFile b →
    ¬ a.Sets k → k.Same b.file a.builtIn → a.load = b.load
  defaulted (c : Config) : a.load = .ok c → a.Defaulted c
  secretless : ¬ a.Sets .secret → ¬ a.Sets .secretFile → ∃ text, a.load = .error (.config text)

variable {a b : Source}

theorem settings?_source : settings? a.explicit a.around = overlay a.env a.file := by
  rw [settings?_eq, a.layer?_eq]
  rfl

theorem secretPath?_source {t : Settings} (laid : overlay a.env a.file = .ok t) :
    secretPath? a.explicit a.around = t.secretFile := by
  rw [secretPath?, settings?_source, laid]
  rfl

theorem load_source : a.load = ((overlay a.env a.file).bind
    (resolve a.around.disk)).mapError fun f => .config f.message := by
  rw [load, Config.load, load?, settings?_source]
  rfl

theorem load_congr (port : a.env "CASEY_PORT" = b.env "CASEY_PORT")
    (secs : a.env "CASEY_TIMEOUT_SECS" = b.env "CASEY_TIMEOUT_SECS")
    (resolves : ∀ t t', overlay a.env a.file = .ok t → overlay b.env b.file = .ok t' →
      (∀ k : Key, k.Settled a.env b.env a.file b.file → k.Same t t') →
        resolve a.around.disk t = resolve b.around.disk t') :
    a.load = b.load := by
  rw [load_source, load_source]
  rcases overlay_settled a.file b.file port secs with
    ⟨e, bad, bad'⟩ | ⟨t, t', laid, laid', settled⟩
  · rw [bad, bad']
    rfl
  · rw [laid, laid']
    exact congrArg (Except.mapError _) (resolves t t' laid laid' settled)

theorem ApartFrom.settled {k : Key} (apart : a.ApartFrom b k) {j : Key} (other : j ≠ k) :
    j.Settled a.env b.env a.file b.file :=
  ⟨apart.env_eq _ fun same => other (Key.variableName_injective same),
    fun _ => apart.file_same j other⟩

theorem not_sets_iff {k : Key} :
    ¬ a.Sets k ↔ a.env k.variableName = none ∧ k.Same a.file {} := by
  simp [Sets]

theorem same_of_not_sets {k : Key} {t : Settings} (laid : overlay a.env a.file = .ok t)
    (open' : ¬ a.Sets k) : k.Same t {} := by
  obtain ⟨unset, blank⟩ := not_sets_iff.mp open'
  exact Key.Same.trans (overlay_unset laid unset) blank

theorem secret_source {t : Settings} (laid : overlay a.env a.file = .ok t) :
    t.secret = none ↔ ¬ a.Sets .secret := by
  rw [(overlay_texts laid).2.2.1, Option.or_eq_none_iff, not_sets_iff]
  rfl

theorem sharedSecret_source {t t' : Settings} (laid : overlay a.env a.file = .ok t)
    (file : a.SameSecretFile b) (secret : Key.secret.Same t t')
    (path : Key.secretFile.Same t t') :
    sharedSecret a.around.disk t = sharedSecret b.around.disk t' :=
  sharedSecret_congr secret path fun unset name named =>
    file ((secret_source laid).mp unset) name ((secretPath?_source laid).trans named)

theorem load_key_by_key (env : a.env = b.env) (file : a.SameSecretFile b)
    (same : ∀ k : Key, a.env k.variableName = none → k.Same a.file b.file) : a.load = b.load := by
  apply load_congr (congrFun env _) (congrFun env _)
  intro t t' laid _ settled
  have all (k : Key) : k.Same t t' := settled k ⟨congrFun env _, same k⟩
  have whole : t = t' := Key.eq_of_same all
  subst whole
  exact resolve_congr (sharedSecret_source laid file rfl rfl) fun _ => rfl

theorem load_inline_secret (apart : a.ApartFrom b .secretFile) (inline : a.Sets .secret) :
    a.load = b.load := by
  apply load_congr (apart.env_eq _ (by decide)) (apart.env_eq _ (by decide))
  intro t t' laid _ settled
  have same (k : Key) (other : k ≠ .secretFile) : k.Same t t' := settled k (apart.settled other)
  have set : t.secret ≠ none := fun unset => (secret_source laid).mp unset inline
  obtain ⟨secret, inline⟩ := Option.ne_none_iff_exists'.mp set
  have inline' : t'.secret = some secret := (same .secret (by decide)).symm.trans inline
  apply resolve_congr
  · rw [sharedSecret_inline inline, sharedSecret_inline inline']
  · intro secret
    have host : t.host = t'.host := same .host (by decide)
    have scheme : t.scheme = t'.scheme := same .scheme (by decide)
    have secs : t.timeoutSecs = t'.timeoutSecs := same .timeoutSecs (by decide)
    exact completed_congr (address_congr (by rw [host]) (.inr (by rw [scheme])))
      (hostPort_congr (same .port (by decide))) (by rw [secs])

theorem host_source {t : Settings} (laid : overlay a.env a.file = .ok t) :
    t.host.getD defaultHost = a.host := by
  rw [(overlay_texts laid).2.1]
  rfl

theorem named_source {t : Settings} (laid : overlay a.env a.file = .ok t) :
    a.namedPort? = Config.namedPort? (address t).2 := by
  have host : (address { host := some a.host }).2 = (address t).2 :=
    address_snd_congr (host_source laid).symm
  rw [namedPort?, host]

theorem load_host_scheme (apart : a.ApartFrom b .scheme) (file : a.SameSecretFile b)
    (schemed : HasScheme a.host.toList) : a.load = b.load := by
  apply load_congr (apart.env_eq _ (by decide)) (apart.env_eq _ (by decide))
  intro t t' laid _ settled
  have same (k : Key) (other : k ≠ .scheme) : k.Same t t' := settled k (apart.settled other)
  apply resolve_congr (sharedSecret_source laid file (same .secret (by decide))
    (same .secretFile (by decide)))
  intro secret
  have host : t.host = t'.host := same .host (by decide)
  have secs : t.timeoutSecs = t'.timeoutSecs := same .timeoutSecs (by decide)
  have carried : HasScheme (t.host.getD defaultHost).toList := by
    rw [host_source laid]
    exact schemed
  exact completed_congr (address_congr (by rw [host]) (.inl carried))
    (hostPort_congr (same .port (by decide))) (by rw [secs])

theorem load_unset {k : Key} (apart : a.ApartFrom b k) (env : a.env = b.env)
    (file : a.SameSecretFile b) (open' : ¬ a.Sets k) (built : k.Same b.file a.builtIn) :
    a.load = b.load := by
  have unset : b.env k.variableName = none := env ▸ (not_sets_iff.mp open').1
  apply load_congr (congrFun env _) (congrFun env _)
  intro t t' laid laid' settled
  have either (j : Key) : j.Same t t' ∨ j.Same t {} ∧ j.Same t' a.builtIn := by
    by_cases own : j = k
    · subst own
      exact .inr ⟨same_of_not_sets laid open', Key.Same.trans (overlay_unset laid' unset) built⟩
    · exact .inl (settled j (apart.settled own))
  -- nothing is built in for these two, so the file leaves them unset as well
  have secret : t.secret = t'.secret :=
    (either .secret).elim id fun ⟨before, after⟩ => Eq.trans before (Eq.symm after)
  have secretFile : t.secretFile = t'.secretFile :=
    (either .secretFile).elim id fun ⟨before, after⟩ => Eq.trans before (Eq.symm after)
  have scheme : t.scheme.getD defaultScheme = t'.scheme.getD defaultScheme :=
    getD_congr (either .scheme)
  have host : t.host.getD defaultHost = t'.host.getD defaultHost := getD_congr (either .host)
  have secs : t.timeoutSecs.getD defaultSecs = t'.timeoutSecs.getD defaultSecs :=
    getD_congr (either .timeoutSecs)
  have port : hostPort t (address t).2 = hostPort t' (address t).2 := by
    rcases either .port with same | ⟨before, after⟩
    · exact hostPort_congr same
    -- a port that the host names would clash with any other default
    · exact hostPort_unset before (named_source laid ▸ after)
  exact resolve_congr (sharedSecret_source laid file secret secretFile) fun _ =>
    completed_congr (address_congr host (.inr scheme)) port secs

theorem load_ok {c : Config} (loaded : a.load = .ok c) :
    ∃ t secret, overlay a.env a.file = .ok t ∧ completed t secret = .ok c := by
  rw [load_source] at loaded
  obtain ⟨t, laid, settled⟩ := bind_ok (mapError_ok loaded)
  rw [resolve_eq] at settled
  obtain ⟨secret, _, done⟩ := bind_ok settled
  exact ⟨t, secret, laid, done⟩

theorem load_defaulted {c : Config} (loaded : a.load = .ok c) : a.Defaulted c := by
  obtain ⟨t, secret, laid, done⟩ := load_ok loaded
  obtain ⟨scheme, parted, timed⟩ := completed_parts done
  constructor
  case scheme =>
    intro open' bare
    have unset : t.scheme = none := same_of_not_sets laid open'
    have uncut : splitScheme? (t.host.getD defaultHost).toList = none := by
      rw [host_source laid]
      exact splitScheme?_bare bare
    rw [scheme, address_unschemed uncut, unset]
    rfl
  case host =>
    intro open'
    have unset : t.host = none := same_of_not_sets laid open'
    have host : (address t).2 = defaultHost.toList :=
      calc (address t).2
        _ = (address {}).2 := address_snd_congr (by rw [unset])
        _ = defaultHost.toList := rfl
    rw [host, hostPort_whole t rfl] at parted
    have name : "localhost".toList = c.host.toList := congrArg Prod.fst (Except.ok.inj parted)
    exact (String.toList_inj.mp name).symm
  case port =>
    intro open'
    have unset : t.port = none := same_of_not_sets laid open'
    rw [hostPort_unset_ok unset parted, named_source laid]
    rfl
  case timeout =>
    intro open'
    have unset : t.timeoutSecs = none := same_of_not_sets laid open'
    rw [timed, unset]
    rfl

theorem load_secretless (secret : ¬ a.Sets .secret) (secretFile : ¬ a.Sets .secretFile) :
    ∃ text, a.load = .error (.config text) := by
  rw [load_source]
  rcases laid : overlay a.env a.file with e | t
  · exact ⟨e.message, rfl⟩
  · have unset : t.secret = none := same_of_not_sets laid secret
    have unset' : t.secretFile = none := same_of_not_sets laid secretFile
    have shared : sharedSecret a.around.disk t = .error .noSecret := by
      unfold sharedSecret
      rw [unset, unset']
    have refused : resolve a.around.disk t = .error .noSecret := by
      rw [resolve_eq, shared]
      rfl
    exact ⟨Fault.noSecret.message, congrArg (Except.mapError _) refused⟩

theorem layered (a : Source) : a.Layered where
  key_by_key _ env file same := load_key_by_key env file same
  inline_secret _ apart inline := load_inline_secret apart inline
  host_scheme _ apart file schemed := load_host_scheme apart file schemed
  unset _ _ apart env file open' built := load_unset apart env file open' built
  defaulted _ loaded := load_defaulted loaded
  secretless secret secretFile := load_secretless secret secretFile

end Source

end Handin.Config
