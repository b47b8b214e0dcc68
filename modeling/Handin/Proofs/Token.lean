import Handin.Proofs.Names
import Handin.Proofs.Numeral
import Handin.Token

namespace Handin

namespace Text

theorem length_hex (b : List UInt8) : (hex b).length = 2 * b.length := by
  induction b with
  | nil => rfl
  | cons x rest ih =>
      have more : (hex (x :: rest)).length = (hex rest).length + 2 := rfl
      rw [more, ih, List.length_cons, Nat.mul_succ]

theorem mem_hex {b : List UInt8} {c : Char} (member : c ∈ hex b) : ∃ d < 16, c = digit d := by
  obtain ⟨x, _, half⟩ := List.mem_flatMap.mp member
  have bound := x.toNat_lt
  rw [List.mem_cons, List.mem_singleton] at half
  rcases half with rfl | rfl
  · exact ⟨x.toNat / 16, by omega, rfl⟩
  · exact ⟨x.toNat % 16, by omega, rfl⟩

theorem isNameChar_digit {d : Nat} (small : d < 16) : isNameChar (digit d) = true := by
  interval_cases d <;> rfl

end Text

theorem length_token (user : String) (day : Date) (secret : String) :
    (token user day secret).toList.length = 128 := by
  rw [token, String.toList_ofList, Text.length_hex, length_sha512]

theorem isName_token (user : String) (day : Date) (secret : String) :
    isName (token user day secret) = true := by
  have filled : (token user day secret).toList.isEmpty = false := by
    have long := length_token user day secret
    cases token : (token user day secret).toList with
    | nil =>
        rw [token] at long
        cases long
    | cons c rest => rfl
  rw [isName, filled, Bool.not_false, Bool.true_and, List.all_eq_true]
  intro c member
  rw [token, String.toList_ofList] at member
  obtain ⟨d, small, rfl⟩ := Text.mem_hex member
  exact Text.isNameChar_digit small

end Handin
