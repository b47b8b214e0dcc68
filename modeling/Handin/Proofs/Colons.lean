import Handin.Proofs.Percent
import Handin.Proofs.Words
import Handin.Url.Domain

/-! A colon in a host name stays one however the name is brought to its form, and a name in that form
has none. -/

namespace Handin.Url.Domain

open Text

def colon : Nat := 0x3a

def readPair (read : Nat × List (Nat × Nat × Nat)) (entry : List Char) :
    Nat × List (Nat × Nat × Nat) :=
  match entry with
  | '@' :: n => ((value? 16 n).getD 0, read.2)
  | _ =>
    match entry.splitOn '+' with
    | [a, c] => (read.1, ((value? 16 a).getD 0, read.1, (value? 16 c).getD 0) :: read.2)
    | _ => (read.1, read.2)

def pairsOf (text : String) : List (Nat × Nat × Nat) :=
  ((words text.toList).foldl readPair (0, [])).2

theorem pairs_eq : pairs = pairsOf pairText := rfl

def omits (n : Nat) (entry : List Char) : Bool :=
  match entry with
  | '@' :: second => (value? 16 second).getD 0 != n
  | _ =>
    match entry.splitOn '+' with
    | [a, c] => (value? 16 a).getD 0 != n && (value? 16 c).getD 0 != n
    | _ => true

def Apart (n : Nat) (pair : Nat × Nat × Nat) : Prop := pair.1 ≠ n ∧ pair.2.1 ≠ n ∧ pair.2.2 ≠ n

theorem readPair_apart {n : Nat} {read : Nat × List (Nat × Nat × Nat)} {entry : List Char}
    (omitted : omits n entry = true) (second : read.1 ≠ n) (apart : ∀ pair ∈ read.2, Apart n pair) :
    (readPair read entry).1 ≠ n ∧ ∀ pair ∈ (readPair read entry).2, Apart n pair := by
  unfold omits at omitted
  unfold readPair
  split at omitted
  · exact ⟨by simpa using omitted, apart⟩
  · split at omitted
    · next a c cut =>
        simp only [Bool.and_eq_true, bne_iff_ne, ne_eq] at omitted
        dsimp only
        refine ⟨second, fun pair member => ?_⟩
        rcases List.mem_cons.mp member with rfl | before
        · exact ⟨omitted.1, second, omitted.2⟩
        · exact apart pair before
    · exact ⟨second, apart⟩

theorem pairsOf_apart {n : Nat} (positive : n ≠ 0) {text : String}
    (omitted : ∀ entry ∈ words text.toList, omits n entry = true) :
    ∀ pair ∈ pairsOf text, Apart n pair := by
  -- over the entries, from any second part and any pairs that are apart from the code point
  have run : ∀ (entries : List (List Char)) (read : Nat × List (Nat × Nat × Nat)),
      (∀ entry ∈ entries, omits n entry = true) → read.1 ≠ n → (∀ pair ∈ read.2, Apart n pair) →
      ∀ pair ∈ (entries.foldl readPair read).2, Apart n pair := by
    intro entries
    induction entries with
    | nil => exact fun _ _ _ apart => apart
    | cons entry rest ih =>
        intro read omitted second apart
        obtain ⟨second', apart'⟩ := readPair_apart (omitted entry List.mem_cons_self) second apart
        exact ih _ (fun other member => omitted other (List.mem_cons_of_mem entry member))
          second' apart'
  exact run _ (0, []) omitted positive.symm (by simp)

set_option maxRecDepth 20000 in
theorem omits_colon : ∀ entry ∈ words pairText.toList, omits colon entry = true := by
  have read : ∃ cs, pairText = String.ofList cs ∧ (words cs).all (omits colon) = true :=
    ⟨_, rfl, by decide +kernel⟩
  obtain ⟨cs, text, all⟩ := read
  rw [text, String.toList_ofList]
  exact List.all_eq_true.mp all

theorem pairs_colon : ∀ pair ∈ pairs, Apart colon pair := by
  rw [pairs_eq]
  exact pairsOf_apart (by decide) omits_colon

theorem partsTable_colon : partsTable[colon]? = none := by
  unfold partsTable
  apply Std.HashMap.getElem?_ofList_of_contains_eq_false
  rw [Bool.eq_false_iff, ne_eq, List.contains_iff_mem]
  intro member
  obtain ⟨entry, inside, key⟩ := List.mem_map.mp member
  obtain ⟨pair, found, rfl⟩ := List.mem_map.mp inside
  exact (pairs_colon pair found).2.2 key

theorem compositeTable_colon {a b : Nat} (one : a = colon ∨ b = colon) :
    compositeTable[(a, b)]? = none := by
  unfold compositeTable
  apply Std.HashMap.getElem?_ofList_of_contains_eq_false
  rw [Bool.eq_false_iff, ne_eq, List.contains_iff_mem]
  intro member
  obtain ⟨entry, inside, key⟩ := List.mem_map.mp member
  obtain ⟨pair, found, rfl⟩ := List.mem_map.mp inside
  obtain ⟨first, second⟩ := Prod.mk.inj key
  have apart := pairs_colon pair found
  rcases one with left | right
  · exact apart.1 (first.trans left)
  · exact apart.2.1 (second.trans right)

theorem composite?_colon {a b : Nat} (one : a = colon ∨ b = colon) : composite? a b = none := by
  have absent := compositeTable_colon one
  have early : ¬ (leadStart ≤ a ∧ a < leadStart + 19 ∧ vowelStart ≤ b ∧ b < vowelStart + 21) := by
    rcases one with rfl | rfl
    · intro lead
      exact absurd lead.1 (by decide)
    · intro vowel
      exact absurd vowel.2.2.1 (by decide)
  have late : ¬ (syllableStart ≤ a ∧ a < syllableStart + 11172 ∧ (a - syllableStart) % 28 = 0 ∧
      tailStart < b ∧ b < tailStart + 28) := by
    rcases one with rfl | rfl
    · intro syllable
      exact absurd syllable.1 (by decide)
    · intro tail
      exact absurd tail.2.2.2.1 (by decide)
  unfold composite?
  rw [if_neg early, if_neg late]
  exact absent

/-- Takes a character apart by any table. With the table of all pairs in its place, opening the
definition would read that table. -/
def partsBy (table : Std.HashMap Nat (Nat × Nat)) : Nat → Nat → List Nat
  | 0, c => [c]
  | fuel + 1, c =>
    match syllableParts? c, table[c]? with
    | some ps, _ => ps
    | none, some (a, b) => partsBy table fuel a ++ [b]
    | none, none => [c]

theorem parts_eq : parts = partsBy partsTable := by
  delta parts partsBy
  rfl

theorem partsBy_whole {table : Std.HashMap Nat (Nat × Nat)} {c : Nat}
    (whole : syllableParts? c = none) (absent : table[c]? = none) (fuel : Nat) :
    partsBy table fuel c = [c] := by
  cases fuel with
  | zero => rfl
  | succ fuel => rw [partsBy, whole, absent]

theorem parts_colon (fuel : Nat) : parts fuel colon = [colon] := by
  have whole : syllableParts? colon = none := by
    rw [syllableParts?, if_neg (by decide)]
  rw [parts_eq]
  exact partsBy_whole whole partsTable_colon fuel

def place (sorted : List Nat × List (Nat × Nat)) (c : Nat) : List Nat × List (Nat × Nat) :=
  if combiningClass c = 0 then (sorted.1 ++ sorted.2.map (·.2) ++ [c], [])
  else (sorted.1, (sorted.2 ++ [(combiningClass c, c)]).mergeSort fun x y => x.1 ≤ y.1)

def placed (sorted : List Nat × List (Nat × Nat)) : List Nat := sorted.1 ++ sorted.2.map (·.2)

theorem inOrder_eq (cs : List Nat) : inOrder cs = placed (cs.foldl place ([], [])) := rfl

theorem mem_placed_place {n c : Nat} {sorted : List Nat × List (Nat × Nat)} :
    n ∈ placed (place sorted c) ↔ n ∈ placed sorted ∨ n = c := by
  unfold place placed
  split
  · simp [or_assoc]
  · simp only [List.mem_append, List.mem_map, List.mem_mergeSort, List.mem_singleton]
    grind

theorem mem_inOrder {n : Nat} {cs : List Nat} : n ∈ inOrder cs ↔ n ∈ cs := by
  have run : ∀ (cs : List Nat) (sorted : List Nat × List (Nat × Nat)),
      n ∈ placed (cs.foldl place sorted) ↔ n ∈ placed sorted ∨ n ∈ cs := by
    intro cs
    induction cs with
    | nil => simp
    | cons c rest ih =>
        intro sorted
        rw [List.foldl_cons, ih, mem_placed_place, List.mem_cons, or_assoc]
  rw [inOrder_eq, run]
  simp [placed]

theorem Composing.add_cases (t : Composing) (c : Nat) :
    (∃ s x, t.starter = some s ∧ composite? s c = some x ∧ t.add c = { t with starter := some x }) ∨
      (t.add c).all = c :: t.all := by
  unfold Composing.add
  dsimp only
  split
  · next x joined =>
      obtain ⟨_, bound⟩ := Option.ite_none_right_eq_some.mp joined
      obtain ⟨s, starter, composite⟩ := Option.bind_eq_some_iff.mp bound
      exact .inl ⟨s, x, starter, composite, rfl⟩
  · right
    split
    · rfl
    · cases starter : t.starter <;> simp [Composing.all, starter]

theorem Composing.colon_mem_add {t : Composing} {c : Nat} (member : colon ∈ t.all ∨ c = colon) :
    colon ∈ (t.add c).all := by
  rcases t.add_cases c with ⟨s, x, starter, composite, joined⟩ | last
  · -- no pair has a colon in it, so neither the starter nor the next one is lost with one
    have other : s ≠ colon ∧ c ≠ colon := by
      constructor
      · intro same
        rw [composite?_colon (.inl same)] at composite
        cases composite
      · intro same
        rw [composite?_colon (.inr same)] at composite
        cases composite
    have before : colon ∈ t.marks ++ s :: t.settled := by
      rcases member with before | same
      · rwa [Composing.all, starter] at before
      · exact absurd same other.2
    rw [joined, Composing.all]
    simp only [List.mem_append, List.mem_cons] at before ⊢
    rcases before with mark | same | settled
    · exact .inl mark
    · exact absurd same.symm other.1
    · exact .inr (.inr settled)
  · rw [last]
    rcases member with before | rfl
    · exact List.mem_cons_of_mem c before
    · exact List.mem_cons_self

theorem colon_mem_composed {cs : List Char} (member : ':' ∈ cs) : ':' ∈ composed cs := by
  have run : ∀ (ns : List Nat) (t : Composing), colon ∈ t.all ∨ colon ∈ ns →
      colon ∈ (ns.foldl Composing.add t).all := by
    intro ns
    induction ns with
    | nil => simp
    | cons n rest ih =>
        intro t inside
        apply ih
        rcases inside with before | inside
        · exact .inl (Composing.colon_mem_add (.inl before))
        · rcases List.mem_cons.mp inside with same | later
          · exact .inl (Composing.colon_mem_add (.inr same.symm))
          · exact .inr later
  unfold composed
  split
  · exact member
  · have apart : colon ∈ cs.flatMap fun c => parts 4 c.toNat := by
      refine List.mem_flatMap.mpr ⟨':', member, ?_⟩
      show colon ∈ parts 4 colon
      rw [parts_colon]
      exact List.mem_cons_self
    have whole := run _ {} (.inr (mem_inOrder.mpr apart))
    exact List.mem_map.mpr ⟨colon, List.mem_reverse.mpr whole, rfl⟩

theorem zip_mapM {α β : Type} {f : α → Option β} {xs : List α} {ys : List β}
    (read : xs.mapM f = some ys) {x : α} (member : x ∈ xs) :
    ∃ y, (x, y) ∈ xs.zip ys ∧ f x = some y := by
  induction xs generalizing ys with
  | nil => cases member
  | cons first rest ih =>
      rw [List.mapM_cons] at read
      obtain ⟨y, head, read⟩ := Option.bind_eq_some_iff.mp read
      obtain ⟨later, tail, whole⟩ := Option.bind_eq_some_iff.mp read
      cases whole
      rcases List.mem_cons.mp member with rfl | inside
      · exact ⟨y, List.mem_cons_self, head⟩
      · obtain ⟨z, pair, image⟩ := ih tail inside
        exact ⟨z, List.mem_cons_of_mem _ pair, image⟩

theorem colon_mem_encoded {label : List Char} (member : ':' ∈ label) : ':' ∈ encoded label := by
  unfold encoded
  split
  · exact member
  · have ascii : ':' ∈ label.filter (·.toNat < 128) := List.mem_filter.mpr ⟨member, rfl⟩
    have filled : (label.filter (·.toNat < 128)).isEmpty = false := by
      rw [List.isEmpty_eq_false_iff]
      exact List.ne_nil_of_mem ascii
    simp only [Punycode.encode, filled, Bool.false_eq_true, if_false, List.mem_append]
    exact .inr (.inl (.inl ascii))

theorem colon_mem_transcribed {name out : List Char} (read : transcribed? name = some out)
    (member : ':' ∈ name) : ':' ∈ out := by
  unfold transcribed? at read
  obtain ⟨written, mapped, read⟩ := Option.bind_eq_some_iff.mp read
  obtain ⟨shown, labels, read⟩ := Option.bind_eq_some_iff.mp read
  have kept : ':' ∈ written.flatten := by
    obtain ⟨y, pair, image⟩ := zip_mapM mapped member
    cases image
    exact List.mem_flatten.mpr ⟨_, (List.of_mem_zip pair).2, List.mem_singleton.mpr rfl⟩
  have whole := colon_mem_composed kept
  -- the colon is in one of the labels, and a label keeps it
  have parted : ['.'].intercalate ((composed written.flatten).splitOn '.') =
      composed written.flatten :=
    List.intercalate_splitOn '.'
  rw [← parted] at whole
  obtain ⟨label, inside, found⟩ := mem_of_mem_intercalate whole (by decide)
  obtain ⟨cs, pair, image⟩ := zip_mapM labels inside
  have written : ':' ∈ (if encodedStart.isPrefixOf label then label else encoded cs) := by
    split
    · exact found
    · next plain =>
        rw [characters?, if_neg plain] at image
        cases image
        exact colon_mem_encoded found
  repeat' split at read
  all_goals try cases read
  exact mem_intercalate (List.mem_map.mpr ⟨(label, cs), pair, rfl⟩) written

/-- A name in ASCII form has no colon, and neither does the name that it is the form of. -/
theorem colon_notMem {name out : List Char} (read : toAscii? name = some out) : ':' ∉ name := by
  intro member
  have barred (ascii : List Char) (kept : ':' ∈ ascii) :
      (if ascii.any isForbidden then none else some ascii) ≠ some out := by
    have forbidden : ascii.any isForbidden = true := List.any_eq_true.mpr ⟨':', kept, rfl⟩
    rw [if_pos forbidden]
    exact nofun
  unfold toAscii? at read
  dsimp only at read
  split at read
  · exact barred _ (List.mem_map.mpr ⟨':', member, rfl⟩) read
  · obtain ⟨ascii, transcribed, read⟩ := Option.bind_eq_some_iff.mp read
    exact barred ascii (colon_mem_transcribed transcribed member) read

end Handin.Url.Domain
