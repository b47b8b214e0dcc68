import Mathlib.Data.List.TakeWhile
import Handin.Text.Blank

namespace Handin.Text

theorem takeWhile_append (p : Char → Bool) (cs : List Char) {beyond : List Char}
    (stops : ∀ c, beyond.head? = some c → p c = false) :
    (cs ++ beyond).takeWhile p = cs.takeWhile p ∧
      (cs ++ beyond).dropWhile p = cs.dropWhile p ++ beyond := by
  induction cs with
  | nil =>
      cases beyond with
      | nil => simp
      | cons c rest => simp [stops c rfl]
  | cons c rest ih =>
      cases passes : p c <;> simp [passes, ih]

theorem not_isBlank_of_mem_words {cs w : List Char} (member : w ∈ words cs) {c : Char}
    (inside : c ∈ w) : isBlank c = false := by
  fun_induction words cs with
  | case1 => cases member
  | case2 c rest blank ih => exact ih member
  | case3 first rest solid ih =>
      rcases List.mem_cons.mp member with rfl | later
      · rcases List.mem_cons.mp inside with rfl | more
        · simpa using solid
        · simpa using List.mem_takeWhile_imp more
      · exact ih later

theorem words_eq_nil_iff {cs : List Char} : words cs = [] ↔ ∀ c ∈ cs, isBlank c = true := by
  fun_induction words cs with
  | case1 => simp
  | case2 c rest blank ih => simp [ih, blank]
  | case3 first rest solid ih => simp [solid]

theorem mem_intercalate {sep : List Char} {parts : List (List Char)} {part : List Char} {c : Char}
    (member : part ∈ parts) (inside : c ∈ part) : c ∈ sep.intercalate parts := by
  induction parts with
  | nil => cases member
  | cons first rest ih =>
      cases rest with
      | nil =>
          rw [List.intercalate_singleton]
          exact List.mem_singleton.mp member ▸ inside
      | cons second more =>
          rw [List.intercalate_cons_cons]
          rcases List.mem_cons.mp member with rfl | later
          · simp [inside]
          · simp [ih later]

theorem mem_of_mem_intercalate {sep : List Char} {parts : List (List Char)} {c : Char}
    (inside : c ∈ sep.intercalate parts) (other : c ∉ sep) : ∃ part ∈ parts, c ∈ part := by
  induction parts with
  | nil => simp at inside
  | cons first rest ih =>
      cases rest with
      | nil => exact ⟨first, List.mem_cons_self, by simpa using inside⟩
      | cons second more =>
          rw [List.intercalate_cons_cons] at inside
          simp only [List.mem_append, other, or_false] at inside
          rcases inside with head | later
          · exact ⟨first, List.mem_cons_self, head⟩
          · obtain ⟨part, member, found⟩ := ih later
            exact ⟨part, List.mem_cons_of_mem first member, found⟩

def AllBlank (cs : List Char) : Prop := ∀ c ∈ cs, isBlank c = true

structure IsWord (w : List Char) : Prop where
  ne_nil : w ≠ []
  solid : ∀ c ∈ w, isBlank c = false

instance (cs : List Char) : Decidable (AllBlank cs) :=
  decidable_of_iff (cs.all isBlank = true) List.all_eq_true

instance (w : List Char) : Decidable (IsWord w) :=
  decidable_of_iff (w ≠ [] ∧ w.all (!isBlank ·) = true)
    ⟨fun h => ⟨h.1, by simpa using h.2⟩, fun h => ⟨h.1, by simpa using h.2⟩⟩

theorem trimLeft_append {lead rest : List Char} (blank : AllBlank lead)
    (solid : ∀ c ∈ rest.head?, isBlank c = false) : trimLeft (lead ++ rest) = rest := by
  rw [trimLeft, List.dropWhile_append_of_pos blank]
  cases rest with
  | nil => rfl
  | cons c rest => exact List.dropWhile_cons_of_neg (by simp [solid c rfl])

theorem exists_trimLeft (cs : List Char) : ∃ lead, AllBlank lead ∧ cs = lead ++ trimLeft cs :=
  ⟨cs.takeWhile isBlank, fun _ member => List.mem_takeWhile_imp member,
    List.takeWhile_append_dropWhile.symm⟩

/-- Words as they stand after another: one blank or more before each, and any blanks after the last. -/
inductive Follows : List (List Char) → List Char → Prop
  | done {blanks : List Char} : AllBlank blanks → Follows [] blanks
  | word {gap w rest : List Char} {ws : List (List Char)} : gap ≠ [] → AllBlank gap → IsWord w →
      Follows ws rest → Follows (w :: ws) (gap ++ w ++ rest)

/-- One word or more in a text, in order: any blanks before the first, then as they follow. -/
inductive Written : List (List Char) → List Char → Prop
  | first {lead w rest : List Char} {ws : List (List Char)} : AllBlank lead → IsWord w →
      Follows ws rest → Written (w :: ws) (lead ++ w ++ rest)

theorem allBlank_nil : AllBlank [] := fun _ member => by cases member

theorem words_blanks_append {lead : List Char} (blank : AllBlank lead) (rest : List Char) :
    words (lead ++ rest) = words rest := by
  induction lead with
  | nil => rfl
  | cons c lead ih =>
      rw [List.cons_append, words, if_pos (blank c List.mem_cons_self)]
      exact ih fun x member => blank x (List.mem_cons_of_mem c member)

theorem words_word_append {w rest : List Char} (word : IsWord w)
    (ends : ∀ c ∈ rest.head?, isBlank c = true) : words (w ++ rest) = w :: words rest := by
  obtain ⟨filled, solid⟩ := word
  cases w with
  | nil => exact absurd rfl filled
  | cons c w =>
      have first : isBlank c = false := solid c List.mem_cons_self
      have others : ∀ x ∈ w, (!isBlank x) = true := by
        intro x member
        rw [solid x (List.mem_cons_of_mem c member)]
        rfl
      have stops : ∀ x, rest.head? = some x → (!isBlank x) = false := by
        intro x next
        rw [ends x next]
        rfl
      obtain ⟨taken, dropped⟩ := takeWhile_append (!isBlank ·) w stops
      rw [List.takeWhile_eq_self_iff.mpr others] at taken
      rw [List.dropWhile_eq_nil_iff.mpr others, List.nil_append] at dropped
      rw [List.cons_append, words, if_neg (by simp [first]), taken, dropped]

variable {ws : List (List Char)} {t : List Char}

theorem Follows.head_blank (follows : Follows ws t) : ∀ c ∈ t.head?, isBlank c = true := by
  intro c first
  cases follows with
  | done blank => exact blank c (List.mem_of_mem_head? first)
  | @word gap w rest ws filled blank _ _ =>
      cases gap with
      | nil => exact absurd rfl filled
      | cons x gap =>
          cases first
          exact blank c List.mem_cons_self

theorem Follows.words_eq (follows : Follows ws t) : words t = ws := by
  induction follows with
  | done blank => exact words_eq_nil_iff.mpr blank
  | word _ blank word follows ih =>
      rw [List.append_assoc, words_blanks_append blank, words_word_append word follows.head_blank,
        ih]

theorem Written.words_eq (written : Written ws t) : words t = ws := by
  obtain ⟨blank, word, follows⟩ := written
  rw [List.append_assoc, words_blanks_append blank, words_word_append word follows.head_blank,
    follows.words_eq]

theorem Written.cons {c : Char} (blank : isBlank c = true) (written : Written ws t) :
    Written ws (c :: t) := by
  obtain ⟨before, word, follows⟩ := written
  exact .first (List.forall_mem_cons.mpr ⟨blank, before⟩) word follows

theorem Written.follows (written : Written ws t) (ends : ∀ c ∈ t.head?, isBlank c = true) :
    Follows ws t := by
  obtain @⟨lead, w, rest, ws, blank, word, follows⟩ := written
  refine .word ?_ blank word follows
  -- with no blank before it, the first word would start with one
  rintro rfl
  obtain ⟨filled, solid⟩ := word
  cases w with
  | nil => exact filled rfl
  | cons c w =>
      have first : isBlank c = true := ends c rfl
      rw [solid c List.mem_cons_self] at first
      cases first

theorem written_words {t : List Char} (some_word : words t ≠ []) : Written (words t) t := by
  fun_induction words t with
  | case1 => exact absurd rfl some_word
  | case2 c rest blank ih => exact (ih some_word).cons blank
  | case3 c rest solid ih =>
      have word : IsWord (c :: rest.takeWhile (!isBlank ·)) := by
        refine ⟨List.cons_ne_nil _ _, List.forall_mem_cons.mpr ⟨by simpa using solid, ?_⟩⟩
        intro x member
        simpa using List.mem_takeWhile_imp member
      have ends : ∀ x ∈ (rest.dropWhile (!isBlank ·)).head?, isBlank x = true := by
        intro x first
        have stopped := List.head?_dropWhile_not (!isBlank ·) rest
        rw [Option.mem_def.mp first] at stopped
        simpa using stopped
      have follows : Follows (words (rest.dropWhile (!isBlank ·))) (rest.dropWhile (!isBlank ·)) := by
        by_cases empty : words (rest.dropWhile (!isBlank ·)) = []
        · rw [empty]
          exact .done (words_eq_nil_iff.mp empty)
        · exact (ih empty).follows ends
      have whole := Written.first allBlank_nil word follows
      rwa [List.nil_append, List.cons_append, List.takeWhile_append_dropWhile] at whole

theorem words_eq_iff (some_word : words t ≠ []) : words t = ws ↔ Written ws t := by
  constructor
  · rintro rfl
    exact written_words some_word
  · exact Written.words_eq

theorem written_intercalate {b : Char} (blank : isBlank b = true) (filled : ws ≠ [])
    (each : ∀ w ∈ ws, IsWord w) : Written ws ([b].intercalate ws) := by
  induction ws with
  | nil => exact absurd rfl filled
  | cons w rest ih =>
      have word := each w List.mem_cons_self
      cases rest with
      | nil =>
          have alone := Written.first allBlank_nil word (.done allBlank_nil)
          simpa [List.intercalate_singleton] using alone
      | cons v more =>
          have later := ih (List.cons_ne_nil _ _) fun x member =>
            each x (List.mem_cons_of_mem w member)
          have follows := (later.cons blank).follows fun c first => by
            cases first
            exact blank
          have whole := Written.first allBlank_nil word follows
          rw [List.intercalate_cons_cons]
          simpa using whole

end Handin.Text
