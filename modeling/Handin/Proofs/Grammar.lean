import Handin.Failure
import Handin.Proofs.Listing

namespace Handin.Listing

structure Readable (names : List String) : Prop where
  ne_nil : names ≠ []
  isWord : ∀ name ∈ names, Text.IsWord name.toList

theorem names?_eq_some_iff {reply : String} {names : List String} :
    names? reply = some names ↔ Text.Written (names.map String.toList) reply.toList := by
  have texts (ws : List (List Char)) :
      ws.map String.ofList = names ↔ ws = names.map String.toList := by
    constructor
    · rintro rfl
      simp
    · rintro rfl
      simp
  unfold names?
  split
  · next empty =>
      constructor
      · intro read
        cases read
      · intro written
        cases names with
        | nil => cases written
        | cons name rest =>
            rw [written.words_eq] at empty
            cases empty
  · next filled =>
      rw [Option.some.injEq, texts]
      exact Text.words_eq_iff filled

theorem names?_eq_none_iff {reply : String} : names? reply = none ↔ Text.AllBlank reply.toList := by
  rw [← Option.not_isSome_iff_eq_none, names?_isSome_iff]
  simp [Text.AllBlank]

theorem names?_intercalate {names : List String} (readable : Readable names) :
    names? (" ".intercalate names) = some names := by
  rw [names?_eq_some_iff, String.toList_intercalate]
  apply Text.written_intercalate rfl
  · simpa using readable.ne_nil
  · intro w member
    obtain ⟨name, among, rfl⟩ := List.mem_map.mp member
    exact readable.isWord name among

/-- A reply is read as the names that are written in it. -/
theorem names?_exact (reply : String) (names : List String) :
    (names? reply = some names ↔ Text.Written (names.map String.toList) reply.toList) ∧
      (names? reply = none ↔ Text.AllBlank reply.toList) ∧
      (Readable names → names? (" ".intercalate names) = some names ∧
        ∀ names', Readable names' →
          (Failure.upload names').message = (Failure.upload names).message → names' = names) := by
  refine ⟨names?_eq_some_iff, names?_eq_none_iff, ?_⟩
  intro readable
  have back := names?_intercalate readable
  refine ⟨back, ?_⟩
  intro names' readable' same
  have line (ns : List String) : (Failure.upload ns).message =
      "Unable to upload file(s): " ++ " ".intercalate ns := rfl
  rw [line, line] at same
  have joined : " ".intercalate names' = " ".intercalate names :=
    (String.append_right_inj _).mp same
  have back' := names?_intercalate readable'
  rw [joined, back] at back'
  exact (Option.some.inj back').symm

theorem names?_exact_small : names? " a.py\t\u2003\u2003b.h a.py\n" = some ["a.py", "b.h", "a.py"] ∧
    names? "a.py b.h" = some ["a.py", "b.h"] := by
  have a : Text.IsWord "a.py".toList := by decide
  have b : Text.IsWord "b.h".toList := by decide
  have space : Text.AllBlank [' '] := by decide
  have gap : Text.AllBlank ['\t', '\u2003', '\u2003'] := by decide
  have final : Text.AllBlank ['\n'] := by decide
  have written := Text.Written.first space a
    (.word (by decide) gap b (.word (by decide) space a (.done final)))
  have readable : Readable ["a.py", "b.h"] := by
    refine ⟨by decide, ?_⟩
    simp only [List.forall_mem_cons]
    exact ⟨a, b, by simp⟩
  exact ⟨(names?_exact _ _).1.mpr written, ((names?_exact "" _).2.2 readable).1⟩

end Handin.Listing
