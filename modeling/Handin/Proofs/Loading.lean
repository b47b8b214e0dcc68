import Mathlib.Data.List.TakeWhile
import Handin.Proofs.Names
import Handin.Proofs.Numeral

namespace Handin.Config

theorem splitLast?_none_iff {mark : Char} {cs : List Char} :
    splitLast? mark cs = none ↔ mark ∉ cs := by
  have kept : splitLast? mark cs = none ↔ cs.reverse.dropWhile (· != mark) = [] := by
    unfold splitLast?
    split <;> simp_all
  rw [kept, List.dropWhile_eq_nil_iff]
  constructor
  · intro clean member
    simpa using clean mark (List.mem_reverse.mpr member)
  · intro absent c member
    have : c ≠ mark := fun same => absent (same ▸ List.mem_reverse.mp member)
    simpa using this

theorem splitLast?_some {mark : Char} {cs before after : List Char}
    (cut : splitLast? mark cs = some (before, after)) :
    cs = before ++ mark :: after ∧ mark ∉ after := by
  unfold splitLast? at cut
  split at cut
  · cases cut
  · next c rest reversed =>
      cases cut
      have parted : cs.reverse = cs.reverse.takeWhile (· != mark) ++ c :: rest := by
        rw [← reversed, List.takeWhile_append_dropWhile]
      have first : c = mark := by
        have stops := List.head?_dropWhile_not (· != mark) cs.reverse
        rw [reversed] at stops
        simpa using stops
      constructor
      · have whole := congrArg List.reverse parted
        simpa [first] using whole
      · intro member
        have passed := List.mem_takeWhile_imp (List.mem_reverse.mp member)
        simp at passed

def IsPortAlone (host : List Char) : Prop := ∃ port, host = ':' :: port ∧ ':' ∉ port

def HasScheme (cs : List Char) : Prop := [':', '/', '/'] <:+: cs

instance (cs : List Char) : Decidable (HasScheme cs) :=
  inferInstanceAs (Decidable ([':', '/', '/'] <:+: cs))

theorem isPortAlone_append_iff {name digits : List Char} (clean : ':' ∉ digits) :
    IsPortAlone (name ++ ':' :: digits) ↔ name = [] := by
  constructor
  · rintro ⟨port, same, clean'⟩
    cases name with
    | nil => rfl
    | cons c rest =>
        have tail : rest ++ ':' :: digits = port := (List.cons.inj same).2
        exact absurd (tail ▸ List.mem_append_right rest List.mem_cons_self) clean'
  · rintro rfl
    exact ⟨digits, rfl, clean⟩

theorem hasScheme_append_iff {name digits : List Char} (clean : '/' ∉ digits) :
    HasScheme (name ++ ':' :: digits) ↔ HasScheme name := by
  constructor
  · rintro ⟨front, back, whole⟩
    rcases List.append_eq_append_iff.mp whole with ⟨more, front', back'⟩ | ⟨more, front', back'⟩
    · exact ⟨front, more, front'.symm⟩
    · rcases List.eq_nil_or_concat more with rfl | ⟨start, last, rfl⟩
      · exact ⟨front, [], by simpa using front'⟩
      · -- the slash that ends the scheme would stand in the port
        have slash : last = '/' := by
          have ends := congrArg List.getLast? front'
          simpa using ends.symm
        have inside : last ∈ ':' :: digits := by
          rw [back']
          simp
        rcases List.mem_cons.mp inside with colon | member
        · rw [slash] at colon
          exact absurd colon (by decide)
        · exact absurd (slash ▸ member) clean
  · rintro ⟨front, back, rfl⟩
    exact ⟨front, back ++ ':' :: digits, by simp⟩

theorem splitPort_some {host name : List Char} {port : Nat}
    (parted : splitPort host = .ok (some (name, port))) :
    ∃ digits, host = name ++ ':' :: digits ∧ ':' ∉ digits ∧ '/' ∉ digits := by
  unfold splitPort at parted
  split at parted
  · cases parted
  · next name' digits cut =>
      obtain ⟨whole, clean⟩ := splitLast?_some cut
      split at parted
      · cases parted
      · split at parted
        · next n read =>
            cases parted
            refine ⟨digits, whole, clean, fun slash => ?_⟩
            rcases Text.plus_or_digit_of_unsigned? read slash with plus | digit
            · exact absurd plus (by decide)
            · exact absurd digit (by decide)
        · cases parted

theorem splitPort_none {host : List Char} (whole : splitPort host = .ok none) :
    ¬ IsPortAlone host := by
  intro alone
  unfold splitPort at whole
  split at whole
  · next uncut =>
      obtain ⟨port, rfl, _⟩ := alone
      exact splitLast?_none_iff.mp uncut List.mem_cons_self
  · next name digits cut =>
      obtain ⟨rfl, clean⟩ := splitLast?_some cut
      have empty : name = [] := (isPortAlone_append_iff clean).mp alone
      subst empty
      simp only [List.contains_nil, Bool.false_and, Bool.false_eq_true, if_false] at whole
      split at whole <;> cases whole

theorem hostPort_ok {s : Settings} {host name : List Char} {port : Nat} (filled : host ≠ [])
    (named : hostPort s host = .ok (name, port)) :
    (name = [] ↔ IsPortAlone host) ∧ (HasScheme name ↔ HasScheme host) := by
  obtain ⟨parted, split, named⟩ := bind_ok named
  cases parted with
  | none =>
      cases named
      have absent := splitPort_none split
      exact ⟨⟨fun empty => absurd empty filled, fun alone => absurd alone absent⟩, Iff.rfl⟩
  | some pair =>
      obtain ⟨name', port'⟩ := pair
      obtain ⟨digits, rfl, colon, slash⟩ := splitPort_some split
      have same : name = name' := by
        dsimp only at named
        repeat' split at named
        all_goals cases named
        all_goals rfl
      subst same
      exact ⟨(isPortAlone_append_iff colon).symm, (hasScheme_append_iff slash).symm⟩

theorem toList_baseText (c : Config) : c.baseText.toList =
    c.scheme.toList ++ ':' :: '/' :: '/' :: (c.host.toList ++ ':' :: Text.decimal c.port) := by
  simp [baseText, String.toList_append]

def sharedSecret (disk : Disk) (s : Settings) : Except Fault String :=
  match s.secret, s.secretFile with
  | some secret, _ => .ok secret
  | none, some path => readSecret disk path
  | none, none => .error .noSecret

def completed (s : Settings) (secret : String) : Except Fault Config := do
  if secret = "" then throw .emptySecret
  let (scheme, host) := address s
  if host = [] then throw .emptyHost
  let (host, port) ← hostPort s host
  let secs := s.timeoutSecs.getD defaultSecs
  if secs = 0 then throw .noTime
  return ⟨String.ofList scheme, String.ofList host, port, secret, secs * 1000⟩

theorem resolve_eq (disk : Disk) (s : Settings) :
    resolve disk s = (sharedSecret disk s).bind (completed s) := by
  unfold resolve sharedSecret
  cases s.secret with
  | some secret => rfl
  | none =>
      cases s.secretFile with
      | none => rfl
      | some path =>
          dsimp only
          cases readSecret disk path <;> rfl

theorem sharedSecret_congr {s s' : Settings} {disk disk' : Disk} (secret : s.secret = s'.secret)
    (file : s.secretFile = s'.secretFile)
    (looks : s.secret = none → ∀ path, s.secretFile = some path →
      disk.look path = disk'.look path) :
    sharedSecret disk s = sharedSecret disk' s' := by
  unfold sharedSecret
  rw [← secret, ← file]
  cases inline : s.secret with
  | some secret => rfl
  | none =>
      cases named : s.secretFile with
      | none => rfl
      | some path =>
          dsimp only
          unfold readSecret Disk.readText
          rw [looks inline path named]

def number (bound : Nat) (fault : String → Fault) (value : Option String) (under : Option Nat) :
    Except Fault (Option Nat) :=
  match value with
  | none => .ok under
  | some v =>
    match Text.unsigned? bound v.toList with
    | some n => .ok (some n)
    | none => .error (fault v)

theorem overlay_eq (env : String → Option String) (s : Settings) :
    overlay env s =
      (number Settings.maxPort .badPortVariable (env "CASEY_PORT") s.port).bind fun port =>
        (number Settings.maxSecs .badSecsVariable (env "CASEY_TIMEOUT_SECS") s.timeoutSecs).bind
          fun secs => .ok {
            scheme := (env "CASEY_SCHEME").or s.scheme
            host := (env "CASEY_HOST").or s.host
            port := port
            secret := (env "CASEY_SECRET").or s.secret
            secretFile := (env "CASEY_SECRET_FILE").or s.secretFile
            timeoutSecs := secs } := by
  unfold overlay number
  rcases env "CASEY_PORT" with _ | port
  · rcases env "CASEY_TIMEOUT_SECS" with _ | secs
    · rfl
    · dsimp only
      cases Text.unsigned? Settings.maxSecs secs.toList <;> rfl
  · dsimp only
    cases Text.unsigned? Settings.maxPort port.toList with
    | none => rfl
    | some port =>
        rcases env "CASEY_TIMEOUT_SECS" with _ | secs
        · rfl
        · dsimp only
          cases Text.unsigned? Settings.maxSecs secs.toList <;> rfl

theorem path?_mem {explicit : Option String} {around : Surroundings} {path : String}
    (found : path? explicit around = some path) : path ∈ candidates explicit around := by
  rw [candidates, List.mem_append, List.mem_append]
  unfold path? at found
  split at found
  · exact .inl (.inl (Option.mem_toList.mpr found))
  · next named => exact .inl (.inr (Option.mem_toList.mpr (named.trans found)))
  · exact .inr (Option.mem_toList.mpr (Option.filter_eq_some_iff.mp found).1)

theorem load_unparsed {explicit : Option String} {around : Surroundings} {path text : String}
    {complaint : Settings.Complaint} (found : path? explicit around = some path)
    (read : around.disk.readText path = .ok text)
    (refused : Settings.ofToml text = .error complaint) :
    load explicit around =
      .error (.config ("cannot parse " ++ path ++ ": " ++ around.wording text complaint)) := by
  have unparsed : readSettings around path =
      .error (.unparsable path (around.wording text complaint)) := by
    unfold readSettings
    rw [read]
    simp only [refused]
    rfl
  unfold load load? settings?
  simp only [found, unparsed]
  rfl

section Frame

variable {explicit : Option String} {around : Surroundings} {disk : Disk}

theorem path?_frame
    (same : ∀ path ∈ candidates explicit around, disk.look path = around.disk.look path) :
    path? explicit { around with disk } = path? explicit around := by
  unfold path?
  cases explicit with
  | some path => rfl
  | none =>
      dsimp only
      cases around.env "CASEY_CONFIG" with
      | some path => rfl
      | none =>
          cases settled : around.home with
          | none => rfl
          | some home =>
              have looked := same (defaultPath home) (by simp [candidates, settled])
              simp only [Option.map_some, Option.filter_some, Disk.isFile, looked]
              rfl

theorem readSettings_frame {path : String} (same : disk.look path = around.disk.look path) :
    readSettings { around with disk } path = readSettings around path := by
  unfold readSettings Disk.readText
  simp only [same]

theorem settings?_frame
    (same : ∀ path ∈ candidates explicit around, disk.look path = around.disk.look path) :
    settings? explicit { around with disk } = settings? explicit around := by
  unfold settings?
  rw [path?_frame same]
  rcases found : path? explicit around with _ | path
  · rfl
  · dsimp only
    rw [readSettings_frame (same path (path?_mem found))]

theorem resolve_frame {s : Settings} {disk' : Disk}
    (same : ∀ path, s.secretFile = some path → disk.look path = disk'.look path) :
    resolve disk s = resolve disk' s := by
  rw [resolve_eq, resolve_eq, sharedSecret_congr rfl rfl fun _ => same]

theorem load_frame
    (same : ∀ path ∈ candidates explicit around ++ (secretPath? explicit around).toList,
      disk.look path = around.disk.look path) :
    load explicit { around with disk } = load explicit around := by
  have settled := settings?_frame fun path member => same path (List.mem_append_left _ member)
  unfold load load?
  rw [settled]
  rcases layered : settings? explicit around with f | s
  · rfl
  · have secret : ∀ path, s.secretFile = some path → disk.look path = around.disk.look path := by
      intro path file
      apply same path
      simp [secretPath?, layered, Except.toOption, file]
    exact congrArg (Except.mapError _) (resolve_frame secret)

end Frame

theorem completed_ok {s : Settings} {secret : String} {c : Config}
    (done : completed s secret = .ok c) :
    c.secret ≠ "" ∧ 1000 ≤ c.timeout ∧ (address s).2 ≠ [] ∧
      ∃ name, hostPort s (address s).2 = .ok (name, c.port) ∧ c.host = String.ofList name := by
  unfold completed at done
  by_cases noSecret : secret = ""
  · rw [if_pos noSecret] at done
    cases done
  rw [if_neg noSecret] at done
  dsimp only at done
  by_cases noHost : (address s).2 = []
  · rw [if_pos noHost] at done
    cases done
  rw [if_neg noHost] at done
  obtain ⟨⟨name, port⟩, named, done⟩ := bind_ok done
  dsimp only at done
  by_cases noTime : s.timeoutSecs.getD defaultSecs = 0
  · rw [if_pos noTime] at done
    cases done
  rw [if_neg noTime] at done
  cases done
  refine ⟨noSecret, ?_, noHost, name, named, rfl⟩
  show 1000 ≤ s.timeoutSecs.getD defaultSecs * 1000
  omega

theorem resolve_ok {disk : Disk} {s : Settings} {c : Config} (resolved : resolve disk s = .ok c) :
    c.secret ≠ "" ∧ 1000 ≤ c.timeout ∧ (address s).2 ≠ [] ∧
      ∃ name, hostPort s (address s).2 = .ok (name, c.port) ∧ c.host = String.ofList name := by
  rw [resolve_eq] at resolved
  obtain ⟨_, _, done⟩ := bind_ok resolved
  exact completed_ok done

/-- What a configuration is, by the settings that it is loaded from: a secret and a time it always has,
but a host only if the settings spell more than a port. -/
structure Founded (s : Settings) (c : Config) : Prop where
  secret_ne_empty : c.secret ≠ ""
  timeout_ge : 1000 ≤ c.timeout
  host_eq_empty_iff : c.host = "" ↔ IsPortAlone (address s).2
  hasScheme_iff : HasScheme c.host.toList ↔ HasScheme (address s).2

theorem load?_founded {explicit : Option String} {around : Surroundings} {c : Config}
    (loaded : load? explicit around = .ok c) :
    ∃ s, settings? explicit around = .ok s ∧ Founded s c := by
  obtain ⟨s, layered, resolved⟩ := bind_ok loaded
  obtain ⟨secret, timeout, filled, name, named, host⟩ := resolve_ok resolved
  obtain ⟨empty, schemed⟩ := hostPort_ok filled named
  refine ⟨s, layered, secret, timeout, ?_, ?_⟩
  · rw [host, ← empty]
    simp
  · rw [host, String.toList_ofList, schemed]

def surroundings (host : String) : Surroundings where
  env name :=
    if name = "CASEY_HOST" then some host else if name = "CASEY_SECRET" then some "k" else none
  disk := ⟨fun _ => .absent .notFound⟩
  home := none
  wording _ _ := ""

theorem load?_founded_named :
    ∃ s, settings? none (surroundings "http://grader.example:8443/") = .ok s ∧
      Founded s ⟨"http", "grader.example", 8443, "k", 300000⟩ :=
  load?_founded rfl

/-- A port alone passes for a host, and leaves none; a second scheme passes, too. -/
theorem load?_portAlone :
    (∃ c, load? none (surroundings ":8443") = .ok c ∧ c.host = "") ∧
      ∃ c, load? none (surroundings "http://b://c:80") = .ok c ∧ HasScheme c.host.toList :=
  ⟨⟨⟨"http", "", 8443, "k", 300000⟩, rfl, rfl⟩,
    ⟨⟨"http", "b://c:80", 5005, "k", 300000⟩, rfl, ['b'], ['c', ':', '8', '0'], rfl⟩⟩

end Handin.Config
