import Handin.Options
import Handin.Proofs.Names

/-! Command lines written out: every way to write options, in any order, and with or without `--` before
the names, is read back as those options. -/

namespace Handin.Options

/-- One argument of a command line: a flag, or a text that counts by its place. -/
inductive Word
  | config (path : String)
  | dryRun
  | verbose
  | letters (more : Nat)
  | place (text : String)
  deriving DecidableEq, Repr

namespace Word

def text : Word → String
  | config path => "--config=" ++ path
  | dryRun => "--dry-run"
  | verbose => "--verbose"
  | letters more => String.ofList ('-' :: List.replicate (more + 1) 'v')
  | place text => text

def path? : Word → Option String
  | config path => some path
  | _ => none

def place? : Word → Option String
  | place text => some text
  | _ => none

def loudness : Word → Nat
  | verbose => 1
  | letters more => more + 1
  | _ => 0

end Word

def paths (ws : List Word) : List String := ws.filterMap Word.path?

def places (ws : List Word) : List String := ws.filterMap Word.place?

def loudness : List Word → Nat
  | [] => 0
  | w :: rest => w.loudness + loudness rest

def told (ws : List Word) : Options where
  course := (places ws)[0]?
  assignment := (places ws)[1]?
  config := (paths ws)[0]?
  dryRun := decide (.dryRun ∈ ws)
  verbose := min (loudness ws) Reading.maxVerbose

/-- Flags that can stand together: `--config` at most once and never with an empty path, `--dry-run` at
most once. -/
structure Compatible (ws : List Word) : Prop where
  one_path : (paths ws).length ≤ 1
  filled : "" ∉ paths ws
  once : ws.count .dryRun ≤ 1

/-- Not taken for a flag: a text that begins with a hyphen is no longer than that. -/
def IsBare (text : String) : Prop := text.toList.head? = some '-' → text = "-"

instance (text : String) : Decidable (IsBare text) :=
  inferInstanceAs (Decidable (text.toList.head? = some '-' → text = "-"))

theorem Word.text_ne_dashes {w : Word} (bare : ∀ text ∈ w.place?, IsBare text) : w.text ≠ "--" := by
  cases w with
  | config path => simp [text, ← String.toList_inj]
  | dryRun => decide
  | verbose => decide
  | letters more => simp [text, ← String.toList_inj, List.replicate_succ]
  | place text =>
      rintro rfl
      exact absurd (bare "--" rfl) (by decide)

section

variable {ws rest : List Word} {w : Word}

theorem paths_append : paths (ws ++ rest) = paths ws ++ paths rest := List.filterMap_append

theorem paths_concat : paths (ws ++ [w]) = paths ws ++ w.path?.toList := by
  rw [paths_append]
  cases w <;> rfl

theorem paths_map_place (texts : List String) : paths (texts.map .place) = [] := by
  induction texts with
  | nil => rfl
  | cons text rest ih => exact ih

theorem places_append : places (ws ++ rest) = places ws ++ places rest := List.filterMap_append

theorem places_concat : places (ws ++ [w]) = places ws ++ w.place?.toList := by
  rw [places_append]
  cases w <;> rfl

theorem places_map_place (texts : List String) : places (texts.map .place) = texts := by
  induction texts with
  | nil => rfl
  | cons text rest ih => exact congrArg (text :: ·) ih

theorem loudness_append : loudness (ws ++ rest) = loudness ws + loudness rest := by
  induction ws with
  | nil => exact (Nat.zero_add _).symm
  | cons w ws ih => rw [List.cons_append, loudness, loudness, ih, Nat.add_assoc]

theorem loudness_concat : loudness (ws ++ [w]) = loudness ws + w.loudness := by
  rw [loudness_append]
  rfl

theorem loudness_map_place (texts : List String) : loudness (texts.map .place) = 0 := by
  induction texts with
  | nil => rfl
  | cons text rest ih =>
      rw [List.map_cons, loudness, ih]
      rfl

theorem Compatible.front (compatible : Compatible (ws ++ rest)) : Compatible ws := by
  obtain ⟨one_path, filled, once⟩ := compatible
  rw [paths_append] at one_path filled
  rw [List.length_append] at one_path
  rw [List.count_append] at once
  exact ⟨by omega, fun empty => filled (List.mem_append_left _ empty), by omega⟩

theorem Compatible.config {path : String} (compatible : Compatible (ws ++ [.config path])) :
    paths ws = [] ∧ path ≠ "" := by
  obtain ⟨one_path, filled, _⟩ := compatible
  have last : paths (ws ++ [.config path]) = paths ws ++ [path] := paths_concat
  rw [last] at one_path filled
  rw [List.length_append, List.length_singleton] at one_path
  constructor
  · exact List.eq_nil_of_length_eq_zero (by omega)
  · rintro rfl
    exact filled (List.mem_append_right _ List.mem_cons_self)

theorem Compatible.dryRun_notMem (compatible : Compatible (ws ++ [.dryRun])) : .dryRun ∉ ws := by
  have once := compatible.once
  rw [List.count_append, List.count_singleton_self] at once
  exact List.count_eq_zero.mp (by omega)

theorem told_config {path : String} (first : paths ws = []) :
    told (ws ++ [.config path]) = { told ws with config := some path } := by
  simp [told, paths_concat, places_concat, loudness_concat, first, Word.path?, Word.place?,
    Word.loudness]

theorem told_dryRun : told (ws ++ [.dryRun]) = { told ws with dryRun := true } := by
  simp [told, paths_concat, places_concat, loudness_concat, Word.path?, Word.place?, Word.loudness]

theorem told_louder (path : w.path? = none) (place : w.place? = none) (other : w ≠ .dryRun) :
    told (ws ++ [w]) =
      { told ws with verbose := min ((told ws).verbose + w.loudness) Reading.maxVerbose } := by
  have saturates : min (min (loudness ws) Reading.maxVerbose + w.loudness) Reading.maxVerbose =
      min (loudness ws + w.loudness) Reading.maxVerbose := by
    omega
  simp [told, paths_concat, places_concat, loudness_concat, path, place, other.symm, saturates]

theorem told_first {text : String} (none_yet : places ws = []) :
    told (ws ++ [.place text]) = { told ws with course := some text } := by
  simp [told, paths_concat, places_concat, loudness_concat, none_yet, Word.path?, Word.place?,
    Word.loudness]

theorem told_second {first text : String} (one_yet : places ws = [first]) :
    told (ws ++ [.place text]) = { told ws with assignment := some text } := by
  simp [told, paths_concat, places_concat, loudness_concat, one_yet, Word.path?, Word.place?,
    Word.loudness]

end

namespace Reading

variable {ws : List Word} {r : Reading}

theorem settled_eq (calm : r.pending = .nothing) : r.settled = .ok r := by
  simp only [Reading.settled, settle, calm]

structure Louder (times : Nat) (r r' : Reading) : Prop where
  pending_eq : r'.pending = r.pending
  options_eq : r'.options =
    { r.options with verbose := min (r.options.verbose + times) maxVerbose }
  used_iff (f : Flag) : f ≠ .verbose → (f ∈ r'.used ↔ f ∈ r.used)

theorem Louder.trans {m n : Nat} {r' r'' : Reading} (once : Louder m r r') (again : Louder n r' r'') :
    Louder (m + n) r r'' := by
  constructor
  case pending_eq => exact again.pending_eq.trans once.pending_eq
  case options_eq =>
    have saturates : min (min (r.options.verbose + m) maxVerbose + n) maxVerbose =
        min (r.options.verbose + (m + n)) maxVerbose := by
      omega
    rw [again.options_eq, once.options_eq, saturates]
  case used_iff =>
    intro f other
    exact (again.used_iff f other).trans (once.used_iff f other)

theorem flag_verbose (calm : r.pending = .nothing) :
    ∃ r', r.flag .verbose = .ok r' ∧ Louder 1 r r' := by
  unfold flag
  rw [settled_eq calm]
  refine ⟨_, rfl, rfl, rfl, ?_⟩
  intro f other
  simp [List.mem_erase_of_ne other, other]

theorem cluster_letters (more : Nat) (calm : r.pending = .nothing) :
    ∃ r', r.cluster (List.replicate (more + 1) 'v') = .ok r' ∧ Louder (more + 1) r r' := by
  induction more generalizing r with
  | zero =>
      obtain ⟨r', flagged, louder⟩ := flag_verbose calm
      refine ⟨r', ?_, louder⟩
      rw [List.replicate_succ, cluster, flagged]
      rfl
  | succ more ih =>
      obtain ⟨r', flagged, louder⟩ := flag_verbose calm
      obtain ⟨r'', rest, louder'⟩ := ih (louder.pending_eq.trans calm)
      refine ⟨r'', ?_, ?_⟩
      · rw [List.replicate_succ, cluster, flagged]
        exact rest
      · rw [Nat.add_comm (more + 1) 1]
        exact louder.trans louder'

theorem argument_letters (more : Nat) (calm : r.pending = .nothing) :
    ∃ r', r.argument (Word.text (.letters more)) = .ok r' ∧ Louder (more + 1) r r' := by
  obtain ⟨r', read, louder⟩ := cluster_letters more calm
  refine ⟨r', ?_, louder⟩
  rw [← read, argument, Word.text, String.toList_ofList, List.replicate_succ]
  rfl

theorem argument_dryRun (calm : r.pending = .nothing) (fresh : .dryRun ∉ r.used) :
    r.argument (Word.text .dryRun) = .ok
      { r with used := r.used ++ [.dryRun], options := { r.options with dryRun := true } } := by
  show r.flag .dryRun = _
  unfold flag
  rw [settled_eq calm]
  exact if_neg fresh

theorem argument_config {path : String} (calm : r.pending = .nothing) (fresh : .config ∉ r.used)
    (filled : path ≠ "") : r.argument (Word.text (.config path)) = .ok
      { r with used := r.used ++ [.config], options := { r.options with config := some path } } := by
  have parted : ("config".toList ++ '=' :: path.toList).takeWhile (· != '=') = "config".toList ∧
      ("config".toList ++ '=' :: path.toList).dropWhile (· != '=') = '=' :: path.toList :=
    ⟨rfl, rfl⟩
  have written : (Word.text (.config path)).toList =
      '-' :: '-' :: ("config".toList ++ '=' :: path.toList) := by
    rw [Word.text, String.toList_append]
    rfl
  have read : r.argument (Word.text (.config path)) = r.setConfig path := by
    rw [argument, written]
    show r.long _ = _
    rw [long, parted.1, parted.2, String.ofList_toList]
    show r.setConfig (String.ofList path.toList) = _
    rw [String.ofList_toList]
  have taken : r.config path = ({ r with
      used := r.used ++ [.config], options := { r.options with config := some path } }, none) := by
    rw [config, if_neg fresh, if_neg filled]
  rw [read, setConfig, settled_eq calm]
  dsimp only [bind, Except.bind]
  rw [taken]
  rfl

theorem argument_place {text : String} (calm : r.pending = .nothing) (bare : IsBare text) :
    r.argument text = r.place text := by
  unfold argument
  split
  · next cs written =>
      have lone := bare (by rw [written]; rfl)
      rw [lone] at written
      cases written
  · next c cs _ written =>
      have lone := bare (by rw [written]; rfl)
      rw [lone] at written
      cases written
  · rw [calm]

theorem place_first {text : String} (calm : r.pending = .nothing) (none_yet : r.options.course = none) :
    r.place text = .ok { r with options := { r.options with course := some text } } := by
  unfold place
  rw [none_yet, settled_eq calm]
  rfl

theorem place_second {text first : String} (calm : r.pending = .nothing)
    (one_yet : r.options.course = some first) (no_more : r.options.assignment = none) :
    r.place text = .ok { r with options := { r.options with assignment := some text } } := by
  unfold place
  rw [one_yet, no_more, settled_eq calm]
  rfl

/-- Where reading stands after words. -/
structure Has (ws : List Word) (r : Reading) : Prop where
  calm : r.pending = .nothing
  options_eq : r.options = told ws
  config_mem : .config ∈ r.used ↔ paths ws ≠ []
  dryRun_mem : .dryRun ∈ r.used ↔ .dryRun ∈ ws

theorem has_nil : Has [] {} := by
  refine ⟨rfl, rfl, ?_, ?_⟩ <;> simp [paths]

theorem Has.louder {w : Word} {r' : Reading} (has : Has ws r) (louder : Louder w.loudness r r')
    (path : w.path? = none) (place : w.place? = none) (other : w ≠ .dryRun) :
    Has (ws ++ [w]) r' := by
  obtain ⟨pending, options, used⟩ := louder
  refine ⟨pending.trans has.calm, ?_, ?_, ?_⟩
  · rw [options, has.options_eq, told_louder path place other]
  · rw [used _ (by decide), has.config_mem, paths_concat, path]
    simp
  · rw [used _ (by decide), has.dryRun_mem]
    simp [other.symm]

theorem Has.config {path : String} (has : Has ws r) (compatible : Compatible (ws ++ [.config path])) :
    ∃ r', r.argument (Word.text (.config path)) = .ok r' ∧ Has (ws ++ [.config path]) r' := by
  obtain ⟨first, filled⟩ := compatible.config
  have fresh : .config ∉ r.used := by
    rw [has.config_mem]
    exact not_not_intro first
  refine ⟨_, argument_config has.calm fresh filled, has.calm, ?_, ?_, ?_⟩
  · rw [told_config first, ← has.options_eq]
  · simp [paths_concat, Word.path?]
  · simp [has.dryRun_mem]

theorem Has.dryRun (has : Has ws r) (compatible : Compatible (ws ++ [.dryRun])) :
    ∃ r', r.argument (Word.text .dryRun) = .ok r' ∧ Has (ws ++ [.dryRun]) r' := by
  have fresh : .dryRun ∉ r.used := by
    rw [has.dryRun_mem]
    exact compatible.dryRun_notMem
  refine ⟨_, argument_dryRun has.calm fresh, has.calm, ?_, ?_, ?_⟩
  · rw [told_dryRun, ← has.options_eq]
  · simp [has.config_mem, paths_concat, Word.path?]
  · simp

theorem Has.place (has : Has ws r) (room : (places ws).length < 2) (text : String) :
    ∃ r', r.place text = .ok r' ∧ Has (ws ++ [.place text]) r' := by
  have config : .config ∈ r.used ↔ paths (ws ++ [.place text]) ≠ [] := by
    simp [has.config_mem, paths_concat, Word.path?]
  have dryRun : .dryRun ∈ r.used ↔ .dryRun ∈ ws ++ [.place text] := by
    simp [has.dryRun_mem]
  rcases stand : places ws with _ | ⟨first, _ | ⟨second, more⟩⟩
  · have none_yet : r.options.course = none := by simp [has.options_eq, told, stand]
    refine ⟨_, place_first has.calm none_yet, has.calm, ?_, config, dryRun⟩
    rw [told_first stand, ← has.options_eq]
  · have one_yet : r.options.course = some first := by simp [has.options_eq, told, stand]
    have no_more : r.options.assignment = none := by simp [has.options_eq, told, stand]
    refine ⟨_, place_second has.calm one_yet no_more, has.calm, ?_, config, dryRun⟩
    rw [told_second stand, ← has.options_eq]
  · rw [stand, List.length_cons, List.length_cons] at room
    omega

theorem Has.place_third {text first second : String} (has : Has ws r)
    (full : places ws = [first, second]) :
    r.place text = .error (.unknown text .none none) := by
  have course : r.options.course = some first := by simp [has.options_eq, told, full]
  have assignment : r.options.assignment = some second := by simp [has.options_eq, told, full]
  unfold Reading.place
  rw [course, assignment]
  rfl

theorem Has.argument {w : Word} (has : Has ws r) (compatible : Compatible (ws ++ [w]))
    (bare : ∀ text ∈ w.place?, IsBare text) (room : (places (ws ++ [w])).length ≤ 2) :
    ∃ r', r.argument w.text = .ok r' ∧ Has (ws ++ [w]) r' := by
  cases w with
  | config path => exact has.config compatible
  | dryRun => exact has.dryRun compatible
  | verbose =>
      obtain ⟨r', read, louder⟩ := flag_verbose has.calm
      exact ⟨r', read, has.louder louder rfl rfl (by decide)⟩
  | letters more =>
      obtain ⟨r', read, louder⟩ := argument_letters more has.calm
      exact ⟨r', read, has.louder louder rfl rfl nofun⟩
  | place text =>
      have room' : (places ws).length < 2 := by
        rw [places_concat, List.length_append] at room
        exact room
      obtain ⟨r', read, has'⟩ := has.place room' text
      exact ⟨r', (argument_place has.calm (bare text rfl)).trans read, has'⟩

theorem arguments_cons {arg : String} (word : arg ≠ "--") (rest : List String) :
    r.arguments (arg :: rest) = (r.argument arg).bind (·.arguments rest) := by
  rw [arguments, if_neg word]
  rfl

theorem arguments_dashes (rest : List String) :
    r.arguments ("--" :: rest) = (rest.foldlM place r).bind settled := by
  rw [arguments, if_pos rfl]
  rfl

theorem Has.words {rest : List Word} (has : Has ws r) (compatible : Compatible (ws ++ rest))
    (bare : ∀ text ∈ places rest, IsBare text) (room : (places (ws ++ rest)).length ≤ 2)
    (tail : List String) :
    ∃ r', r.arguments (rest.map Word.text ++ tail) = r'.arguments tail ∧ Has (ws ++ rest) r' := by
  induction rest generalizing ws r with
  | nil => exact ⟨r, rfl, by rwa [List.append_nil]⟩
  | cons w rest ih =>
      have whole : ws ++ w :: rest = (ws ++ [w]) ++ rest := by simp
      rw [whole] at compatible room ⊢
      have bare' : ∀ text ∈ w.place?, IsBare text := fun text own =>
        bare text (List.mem_filterMap.mpr ⟨w, List.mem_cons_self, own⟩)
      have room' : (places (ws ++ [w])).length ≤ 2 := by
        rw [places_append, List.length_append] at room
        omega
      obtain ⟨r', read, has'⟩ := has.argument compatible.front bare' room'
      obtain ⟨r'', run, has''⟩ := ih has' compatible
        (fun text later => bare text (by
          obtain ⟨v, member, own⟩ := List.mem_filterMap.mp later
          exact List.mem_filterMap.mpr ⟨v, List.mem_cons_of_mem w member, own⟩)) room
      refine ⟨r'', ?_, has''⟩
      rw [List.map_cons, List.cons_append, arguments_cons (Word.text_ne_dashes bare'), read]
      exact run

theorem Has.beyond {texts : List String} (has : Has ws r)
    (room : (places ws ++ texts).length ≤ 2) :
    ∃ r', texts.foldlM Reading.place r = .ok r' ∧ Has (ws ++ texts.map .place) r' := by
  induction texts generalizing ws r with
  | nil => exact ⟨r, rfl, by simpa using has⟩
  | cons text rest ih =>
      have one_more : places (ws ++ [.place text]) = places ws ++ [text] := places_concat
      have room' : (places ws).length < 2 := by
        rw [List.length_append, List.length_cons] at room
        omega
      obtain ⟨r', read, has'⟩ := has.place room' text
      obtain ⟨r'', run, has''⟩ := ih has' (by rw [one_more]; simpa using room)
      refine ⟨r'', ?_, by simpa using has''⟩
      rw [List.foldlM_cons, read]
      exact run

theorem Has.beyond_third {front back : List String} {first second third : String} (has : Has ws r)
    (full : places ws ++ front = [first, second]) :
    (front ++ third :: back).foldlM Reading.place r = .error (.unknown third .none none) := by
  have room : (places ws ++ front).length ≤ 2 := by
    rw [full]
    exact Nat.le_refl 2
  obtain ⟨r', run, has'⟩ := has.beyond room
  have stand : places (ws ++ front.map .place) = [first, second] := by
    rw [places_append, places_map_place, full]
  rw [List.foldlM_append, run]
  show (third :: back).foldlM Reading.place r' = _
  rw [List.foldlM_cons, has'.place_third stand]
  rfl

end Reading

/-- A command line after the program's name: words, and perhaps `--` and texts after it. -/
structure Line where
  words : List Word
  beyond : Option (List String) := none

namespace Line

def args (l : Line) : List String := l.words.map Word.text ++ l.beyond.elim [] ("--" :: ·)

def all (l : Line) : List Word := l.words ++ (l.beyond.getD []).map .place

structure Flags (l : Line) (o : Options) (n : Nat) : Prop where
  paths_eq : paths l.words = o.config.toList
  dryRun_count : l.words.count .dryRun = o.dryRun.toNat
  loudness_eq : loudness l.words = n
  bare : ∀ text ∈ places l.words, IsBare text

/-- A line with the flags for options, and the course and the assignment among them or after `--`. -/
structure Writes (l : Line) (o : Options) (n : Nat) : Prop extends l.Flags o n where
  places_eq : places l.all = o.course.toList ++ o.assignment.toList

variable {l : Line} {o : Options} {n : Nat}

theorem Flags.compatible (flags : l.Flags o n) (filled : o.config ≠ some "") :
    Compatible l.words := by
  refine ⟨?_, ?_, ?_⟩
  · rw [flags.paths_eq]
    cases o.config <;> simp
  · rw [flags.paths_eq]
    simpa using filled
  · rw [flags.dryRun_count]
    exact o.dryRun.toNat_le

theorem places_all (l : Line) : places l.all = places l.words ++ l.beyond.getD [] := by
  rw [all, places_append, places_map_place]

theorem told_all (l : Line) : told l.all =
    { told l.words with course := (places l.all)[0]?, assignment := (places l.all)[1]? } := by
  have paths_all : paths l.all = paths l.words := by
    rw [all, paths_append, paths_map_place, List.append_nil]
  have loudness_all : loudness l.all = loudness l.words := by
    rw [all, loudness_append, loudness_map_place, Nat.add_zero]
  have dryRun_all : .dryRun ∈ l.all ↔ .dryRun ∈ l.words := by simp [all]
  simp only [told, paths_all, loudness_all, dryRun_all]

theorem Writes.told_eq (writes : l.Writes o n) (ordered : o.course = none → o.assignment = none) :
    told l.all = { o with verbose := min n Reading.maxVerbose } := by
  have course : (places l.all)[0]? = o.course ∧ (places l.all)[1]? = o.assignment := by
    rw [writes.places_eq]
    cases given : o.course with
    | none => simp [ordered given]
    | some text => cases o.assignment <;> simp
  have config : (paths l.words)[0]? = o.config := by
    rw [writes.paths_eq]
    cases o.config <;> rfl
  have dryRun : decide (.dryRun ∈ l.words) = o.dryRun := by
    have count := writes.dryRun_count
    cases given : o.dryRun with
    | true =>
        rw [given] at count
        exact decide_eq_true (List.count_pos_iff.mp (by rw [count]; decide))
    | false =>
        rw [given] at count
        exact decide_eq_false (List.count_eq_zero.mp count)
  rw [told_all, told, course.1, course.2, config, dryRun, writes.loudness_eq]

theorem parse_of_has {r : Reading} {ws : List Word} (read : ({} : Reading).arguments l.args = .ok r)
    (has : r.Has ws) : parse l.args = .ok (told ws) := by
  rw [parse, read, ← has.options_eq]
  rfl

theorem parse_args (compatible : Compatible l.words) (bare : ∀ text ∈ places l.words, IsBare text)
    (room : (places l.all).length ≤ 2) : parse l.args = .ok (told l.all) := by
  rw [places_all] at room
  have room' : (places l.words).length ≤ 2 := by
    rw [List.length_append] at room
    omega
  obtain ⟨r, run, has⟩ := Reading.has_nil.words compatible bare room' (l.beyond.elim [] ("--" :: ·))
  rw [List.nil_append] at has
  obtain ⟨r', after, has'⟩ := has.beyond room
  refine parse_of_has ?_ has'
  rw [args, run]
  cases given : l.beyond with
  | none =>
      rw [given] at after
      cases after
      exact Reading.settled_eq has.calm
  | some texts =>
      rw [given] at after
      rw [Option.elim_some, Reading.arguments_dashes]
      have same : texts.foldlM Reading.place r = .ok r' := after
      rw [same]
      exact Reading.settled_eq has'.calm

theorem arguments_beyond_third {first second third : String} {front back : List String}
    (compatible : Compatible l.words) (bare : ∀ text ∈ places l.words, IsBare text)
    (full : places l.words ++ front = [first, second])
    (given : l.beyond.getD [] = front ++ third :: back) :
    ({} : Reading).arguments l.args = .error (.unknown third .none none) := by
  have room : (places l.words).length ≤ 2 := by
    have two := congrArg List.length full
    rw [List.length_append] at two
    exact Nat.le.intro two
  obtain ⟨r, run, has⟩ := Reading.has_nil.words compatible bare room (l.beyond.elim [] ("--" :: ·))
  rw [args, run]
  cases beyond : l.beyond with
  | none =>
      rw [beyond] at given
      simp at given
  | some texts =>
      rw [beyond] at given
      have same : texts = front ++ third :: back := given
      rw [Option.elim_some, Reading.arguments_dashes, same, has.beyond_third full]
      rfl

theorem places_split {ws : List Word} {texts more : List String} {text : String}
    (stand : places ws = texts ++ text :: more) :
    ∃ front back, ws = front ++ .place text :: back ∧ places front = texts := by
  obtain ⟨before, later, rfl, own, rest⟩ := List.filterMap_eq_append_iff.mp stand
  obtain ⟨quiet, w, back, rfl, silent, shown, _⟩ := List.filterMap_eq_cons_iff.mp rest
  have given : w = .place text := by
    cases w <;> cases shown
    rfl
  refine ⟨before ++ quiet, back, by rw [given, List.append_assoc], ?_⟩
  have none_more : places quiet = [] := List.filterMap_eq_nil_iff.mpr silent
  have same : places before = texts := own
  rw [places_append, same, none_more, List.append_nil]

theorem arguments_words_third {first second third : String} {back : List String}
    (compatible : Compatible l.words) (bare : ∀ text ∈ places l.words, IsBare text)
    (stand : places l.words = [first, second] ++ third :: back) :
    ({} : Reading).arguments l.args = .error (.unknown third .none none) := by
  have bare_third : IsBare third := bare third (by rw [stand]; simp)
  obtain ⟨front, back', parted, full⟩ := places_split stand
  rw [parted] at compatible bare
  have bare_front : ∀ text ∈ places front, IsBare text := fun text member =>
    bare text (by rw [places_append]; exact List.mem_append_left _ member)
  have room : (places front).length ≤ 2 := by
    rw [full]
    exact Nat.le_refl 2
  obtain ⟨r, run, has⟩ := Reading.has_nil.words compatible.front bare_front room
    (third :: (back'.map Word.text ++ l.beyond.elim [] ("--" :: ·)))
  have args : l.args = front.map Word.text ++
      third :: (back'.map Word.text ++ l.beyond.elim [] ("--" :: ·)) := by
    rw [Line.args, parted, List.map_append, List.append_assoc]
    rfl
  have word : third ≠ "--" := by
    rintro rfl
    exact absurd bare_third (by decide)
  rw [args, run, Reading.arguments_cons word, Reading.argument_place has.calm bare_third,
    has.place_third full]
  rfl

theorem parse_third {first second third : String} {more : List String}
    (compatible : Compatible l.words) (bare : ∀ text ∈ places l.words, IsBare text)
    (stand : places l.all = first :: second :: third :: more) :
    parse l.args = .error (.unknown third .none none) := by
  have rejected : ({} : Reading).arguments l.args = .error (.unknown third .none none) := by
    rw [places_all] at stand
    rcases List.append_eq_append_iff.mp
        (show [first, second] ++ third :: more = places l.words ++ l.beyond.getD [] from stand.symm)
      with ⟨front, words, rest⟩ | ⟨front, words, rest⟩
    · cases front with
      | nil =>
          have full : places l.words ++ [] = [first, second] := by simpa using words
          exact arguments_beyond_third compatible bare full rest.symm
      | cons text front =>
          rw [(List.cons.inj rest).1]
          exact arguments_words_third compatible bare words
    · exact arguments_beyond_third compatible bare words.symm rest
  rw [parse, rejected]
  rfl

end Line

def lineOf (o : Options) (n : Nat) : Line where
  words := o.config.toList.map .config ++ (if o.dryRun then [.dryRun] else []) ++
    List.replicate n .verbose
  beyond := some (o.course.toList ++ o.assignment.toList)

theorem lineOf_writes (o : Options) (n : Nat) : (lineOf o n).Writes o n := by
  have quiet : paths (List.replicate n .verbose) = [] ∧ places (List.replicate n .verbose) = [] ∧
      loudness (List.replicate n .verbose) = n := by
    induction n with
    | zero => exact ⟨rfl, rfl, rfl⟩
    | succ n ih =>
        obtain ⟨path, place, loud⟩ := ih
        refine ⟨path, place, ?_⟩
        rw [List.replicate_succ, ← List.singleton_append, loudness_append, loud, Nat.add_comm]
        rfl
  obtain ⟨path, place, loud⟩ := quiet
  have no_places : places (lineOf o n).words = [] := by
    simp only [lineOf, places_append, place]
    cases o.config <;> cases o.dryRun <;> rfl
  refine ⟨⟨?_, ?_, ?_, ?_⟩, ?_⟩
  · simp only [lineOf, paths_append, path]
    cases o.config <;> cases o.dryRun <;> rfl
  · simp only [lineOf, List.count_append]
    cases o.config <;> cases o.dryRun <;> simp [List.count_replicate]
  · simp only [lineOf, loudness_append, loud]
    cases o.config <;> cases o.dryRun <;> simp [loudness, Word.loudness]
  · rw [no_places]
    exact nofun
  · rw [Line.places_all, no_places]
    rfl

/-- Options can be written on a line, and every line that writes them is read back as they are, but for a
count that stops at the greatest; with a third text that counts by its place, no such line is read. -/
theorem parse_writes {o : Options} (filled : o.config ≠ some "")
    (ordered : o.course = none → o.assignment = none) (n : Nat) :
    (∃ l : Line, l.Writes o n) ∧
      (∀ l : Line, l.Writes o n → parse l.args = .ok { o with verbose := min n 255 }) ∧
      ∀ (l : Line) (first second third : String) (more : List String), l.Flags o n →
        places l.all = first :: second :: third :: more →
        parse l.args = .error (.unknown third .none none) := by
  refine ⟨⟨lineOf o n, lineOf_writes o n⟩, ?_, ?_⟩
  · intro l writes
    have room : (places l.all).length ≤ 2 := by
      rw [writes.places_eq]
      cases o.course <;> cases o.assignment <;> simp
    rw [Line.parse_args (writes.compatible filled) writes.bare room, writes.told_eq ordered]
    rfl
  · intro l first second third more flags stand
    exact Line.parse_third (flags.compatible filled) flags.bare stand

theorem parse_writes_small :
    parse ["-vvv", "--config=a=b", "--verbose", "--dry-run", "--", "-cs", ""] =
        .ok ⟨some "-cs", some "", some "a=b", true, 4⟩ ∧
      parse ["--verbose", "cs101", "--config=a=b", "hw1", "--dry-run", "-vvv"] =
        .ok ⟨some "cs101", some "hw1", some "a=b", true, 4⟩ ∧
      parse ["cs101", "-vvv", "hw1", "--config=a=b", "-", "--dry-run", "--verbose"] =
        .error (.unknown "-" .none none) := by
  have dashed := parse_writes (o := ⟨some "-cs", some "", some "a=b", true, 0⟩) (by decide)
    (by decide) 4
  have mixed := parse_writes (o := ⟨some "cs101", some "hw1", some "a=b", true, 0⟩) (by decide)
    (by decide) 4
  refine ⟨?_, ?_, ?_⟩
  · exact dashed.2.1 ⟨[.letters 2, .config "a=b", .verbose, .dryRun], some ["-cs", ""]⟩
      ⟨⟨rfl, by decide, rfl, by decide⟩, rfl⟩
  · exact mixed.2.1 ⟨[.verbose, .place "cs101", .config "a=b", .place "hw1", .dryRun,
      .letters 2], none⟩ ⟨⟨rfl, by decide, rfl, by decide⟩, rfl⟩
  · exact mixed.2.2 ⟨[.place "cs101", .letters 2, .place "hw1", .config "a=b", .place "-", .dryRun,
      .verbose], none⟩ _ _ _ _ ⟨rfl, by decide, rfl, by decide⟩ rfl

end Handin.Options
