import Mathlib.Tactic.Push
import Handin.Invocation

namespace Handin

theorem bind_ok {ε α β : Type} {x : Except ε α} {f : α → Except ε β} {b : β}
    (bound : (x >>= f) = .ok b) : ∃ a, x = .ok a ∧ f a = .ok b := by
  cases x with
  | error => cases bound
  | ok a => exact ⟨a, rfl, bound⟩

theorem bind_error {ε α β : Type} {x : Except ε α} {f : α → Except ε β} {e : ε}
    (bound : (x >>= f) = .error e) : x = .error e ∨ ∃ a, x = .ok a ∧ f a = .error e := by
  cases x with
  | error e' =>
      cases bound
      exact .inl rfl
  | ok a => exact .inr ⟨a, rfl, bound⟩

theorem mapError_ok {ε ε' α : Type} {x : Except ε α} {f : ε → ε'} {a : α}
    (mapped : x.mapError f = .ok a) : x = .ok a := by
  cases x with
  | error => cases mapped
  | ok b =>
      cases mapped
      rfl

/-- A name that can stand in a URL as it is. -/
def WellNamed (raw : String) : Prop :=
  raw ≠ "" ∧ ∀ c ∈ raw.toList,
    'A' ≤ c ∧ c ≤ 'Z' ∨ 'a' ≤ c ∧ c ≤ 'z' ∨ '0' ≤ c ∧ c ≤ '9' ∨ c = '_'

theorem isNameChar_iff {c : Char} : isNameChar c = true ↔
    'A' ≤ c ∧ c ≤ 'Z' ∨ 'a' ≤ c ∧ c ≤ 'z' ∨ '0' ≤ c ∧ c ≤ '9' ∨ c = '_' := by
  have upper : c.isUpper = decide ('A' ≤ c ∧ c ≤ 'Z') := rfl
  have lower : c.isLower = (decide ('a' ≤ c) && decide (c ≤ 'z')) := rfl
  have digit : c.isDigit = (decide ('0' ≤ c) && decide (c ≤ '9')) := rfl
  have one : isNameChar c = (c.isUpper || (c.isLower || (c.isDigit || c == '_'))) := by
    rw [← Bool.or_assoc, ← Bool.or_assoc]
    rfl
  rw [one, upper, lower, digit]
  simp only [Bool.or_eq_true, Bool.and_eq_true, decide_eq_true_eq, beq_iff_eq]

theorem isName_iff {raw : String} : isName raw = true ↔ WellNamed raw := by
  simp [isName, WellNamed, isNameChar_iff]

theorem Identifier.parse_bad {role raw : String} (bad : ¬ WellNamed raw) :
    Identifier.parse role raw = .error (.usage ("Invalid " ++ role ++ ": " ++ raw)) :=
  dif_neg fun good => bad (isName_iff.mp good)

theorem Identifier.parse_good {role raw : String} (good : WellNamed raw) :
    Identifier.parse role raw = .ok ⟨raw, isName_iff.mpr good⟩ :=
  dif_pos (isName_iff.mpr good)

theorem Identifier.parse_ok {role raw : String} {name : Identifier}
    (parsed : Identifier.parse role raw = .ok name) : name.text = raw := by
  rw [Identifier.parse] at parsed
  split at parsed <;> cases parsed
  rfl

def Invocation.WellNamed (i : Invocation) : Prop :=
  (∃ course, i.course = some course ∧ Handin.WellNamed course) ∧
    ∀ assignment, i.assignment = some assignment → Handin.WellNamed assignment

namespace Invocation

inductive Gives (i : Invocation) : String → String → Prop
  | course {raw : String} : i.course = some raw → i.Gives "course" raw
  | assignment {raw : String} : i.assignment = some raw → i.Gives "assignment" raw

theorem names_no_course {i : Invocation} (absent : i.course = none) :
    i.names = .error (.usage "Course number required") := by
  unfold names
  rw [absent]
  rfl

theorem names_bad_course {i : Invocation} {raw : String} (given : i.course = some raw)
    (bad : ¬ Handin.WellNamed raw) :
    i.names = .error (.usage ("Invalid course: " ++ raw)) := by
  unfold names
  rw [given]
  simp only [Identifier.parse_bad bad]
  rfl

theorem names_bad_assignment {i : Invocation} {course raw : String}
    (given : i.course = some course) (good : Handin.WellNamed course)
    (asked : i.assignment = some raw) (bad : ¬ Handin.WellNamed raw) :
    i.names = .error (.usage ("Invalid assignment: " ++ raw)) := by
  unfold names
  rw [given, asked]
  simp only [Identifier.parse_good good, Option.mapM_some, Identifier.parse_bad bad]
  rfl

theorem names_wellNamed {i : Invocation} (named : i.WellNamed) :
    ∃ course assignment, i.names = .ok (course, assignment) := by
  obtain ⟨⟨course, given, good⟩, assignment⟩ := named
  unfold names
  rw [given]
  simp only [Identifier.parse_good good]
  cases asked : i.assignment with
  | none => exact ⟨_, _, rfl⟩
  | some raw =>
      simp only [Option.mapM_some, Identifier.parse_good (assignment raw asked)]
      exact ⟨_, _, rfl⟩

theorem names_ok {i : Invocation} {course : Identifier} {assignment : Option Identifier}
    (named : i.names = .ok (course, assignment)) :
    i.course = some course.text ∧ i.assignment = assignment.map (·.text) := by
  unfold Invocation.names at named
  cases given : i.course with
  | none =>
      rw [given] at named
      cases named
  | some raw =>
      rw [given] at named
      obtain ⟨course', parsed, named⟩ := bind_ok named
      obtain ⟨assignment', mapped, same⟩ := bind_ok named
      cases same
      refine ⟨by rw [Identifier.parse_ok parsed], ?_⟩
      cases asked : i.assignment with
      | none =>
          rw [asked] at mapped
          cases mapped
          rfl
      | some raw =>
          rw [asked] at mapped
          obtain ⟨name, parsed, same⟩ := bind_ok mapped
          cases same
          rw [Option.map_some, Identifier.parse_ok parsed]

theorem names_error_cases {i : Invocation} {f : Failure} (refused : i.names = .error f) :
    f = .usage "Course number required" ∨
      ∃ role raw, i.Gives role raw ∧ f = .usage ("Invalid " ++ role ++ ": " ++ raw) := by
  have decided {g : Failure} (names : i.names = .error g) : f = g :=
    Except.error.inj (refused.symm.trans names)
  cases given : i.course with
  | none => exact .inl (decided (names_no_course given))
  | some course =>
      by_cases good : Handin.WellNamed course
      · by_cases named : ∀ raw, i.assignment = some raw → Handin.WellNamed raw
        · obtain ⟨_, _, names⟩ := names_wellNamed ⟨⟨course, given, good⟩, named⟩
          rw [refused] at names
          cases names
        · push Not at named
          obtain ⟨raw, asked, bad⟩ := named
          exact .inr ⟨_, raw, .assignment asked, decided (names_bad_assignment given good asked bad)⟩
      · exact .inr ⟨_, course, .course given, decided (names_bad_course given good)⟩

theorem names_error {i : Invocation} {f : Failure} (refused : i.names = .error f) :
    ∃ text, f = .usage text := by
  rcases names_error_cases refused with rfl | ⟨_, _, _, rfl⟩
  · exact ⟨_, rfl⟩
  · exact ⟨_, rfl⟩

theorem wellNamed_of_names {i : Invocation} {course : Identifier} {assignment : Option Identifier}
    (named : i.names = .ok (course, assignment)) : i.WellNamed := by
  obtain ⟨given, asked⟩ := names_ok named
  refine ⟨⟨course.text, given, isName_iff.mp course.isName_text⟩, fun raw same => ?_⟩
  rw [asked] at same
  obtain ⟨name, _, rfl⟩ := Option.map_eq_some_iff.mp same
  exact isName_iff.mp name.isName_text

end Invocation

end Handin
