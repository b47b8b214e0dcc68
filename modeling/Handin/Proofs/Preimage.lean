import Handin.Proofs.Stamp
import Handin.Proofs.Token

/-! What a token tells apart. Account, day and secret are digested with nothing between them; that the
stamp of a day has one width keeps them apart all the same. -/

namespace Handin

namespace Text

theorem digit_inj {d e : Nat} (small : d < 16) (small' : e < 16) : digit d = digit e ↔ d = e := by
  constructor
  · intro same
    have value := digitValue?_digit small
    rw [same, digitValue?_digit small'] at value
    exact (Option.some.inj value).symm
  · exact congrArg digit

theorem hex_inj {a b : List UInt8} : hex a = hex b ↔ a = b := by
  constructor
  · intro same
    have pair (x : UInt8) (rest : List UInt8) :
        hex (x :: rest) = digit (x.toNat / 16) :: digit (x.toNat % 16) :: hex rest := rfl
    induction a generalizing b with
    | nil =>
        cases b with
        | nil => rfl
        | cons y b => cases same
    | cons x a ih =>
        cases b with
        | nil => cases same
        | cons y b =>
            have bound := x.toNat_lt
            have bound' := y.toNat_lt
            rw [pair, pair, List.cons.injEq, List.cons.injEq, digit_inj (by omega) (by omega),
              digit_inj (by omega) (by omega)] at same
            obtain ⟨high, low, rest⟩ := same
            have first : x = y := UInt8.toNat_inj.mp (by omega)
            rw [first, ih rest]
  · exact congrArg hex

theorem digit_range {d : Nat} (small : d < 16) :
    '0' ≤ digit d ∧ digit d ≤ '9' ∨ 'a' ≤ digit d ∧ digit d ≤ 'f' := by
  interval_cases d <;> decide

end Text

namespace Token

open Text

def digested (digest : Bytes → Bytes) (user : String) (day : Date) (secret : String) : String :=
  String.ofList (hex (digest (preimage user day secret)))

theorem preimage_eq_iff {user user' secret secret' : String} {day day' : Date} :
    preimage user day secret = preimage user' day' secret' ↔
      user.toList ++ day.stamp.toList ++ secret.toList =
        user'.toList ++ day'.stamp.toList ++ secret'.toList := by
  simp only [preimage, ← utf8_append, utf8_inj, ← String.toList_inj, String.toList_append]

theorem stamp_toList_inj {day day' : Date} : day.stamp.toList = day'.stamp.toList ↔ day = day' := by
  rw [String.toList_inj, Date.stamp_injective.eq_iff]

section

variable {user user' secret secret' : String} {day day' : Date}

theorem stamp_length_eq (range : 0 ≤ day.year ∧ day.year ≤ 9999)
    (range' : 0 ≤ day'.year ∧ day'.year ≤ 9999) :
    day.stamp.toList.length = day'.stamp.toList.length := by
  have wide := (Date.tenWide_stamp range.1 range.2).length_eq
  have wide' := (Date.tenWide_stamp range'.1 range'.2).length_eq
  exact wide.trans wide'.symm

theorem user_day_of_preimage (range : 0 ≤ day.year ∧ day.year ≤ 9999)
    (range' : 0 ≤ day'.year ∧ day'.year ≤ 9999)
    (same : preimage user day secret = preimage user' day' secret) : user = user' ∧ day = day' := by
  have chars := List.append_cancel_right (preimage_eq_iff.mp same)
  -- the stamp is what the last ten characters are
  obtain ⟨users, days⟩ := List.append_inj' chars (stamp_length_eq range range')
  exact ⟨String.toList_inj.mp users, stamp_toList_inj.mp days⟩

theorem day_secret_of_preimage (range : 0 ≤ day.year ∧ day.year ≤ 9999)
    (range' : 0 ≤ day'.year ∧ day'.year ≤ 9999)
    (same : preimage user day secret = preimage user day' secret') :
    day = day' ∧ secret = secret' := by
  have chars := preimage_eq_iff.mp same
  rw [List.append_assoc, List.append_assoc] at chars
  have rests := List.append_cancel_left chars
  obtain ⟨days, secrets⟩ := List.append_inj rests (stamp_length_eq range range')
  exact ⟨stamp_toList_inj.mp days, String.toList_inj.mp secrets⟩

end

/-- What tokens tell apart, whatever is taken for the digest. -/
structure TellsApart (digest : Bytes → Bytes) : Prop where
  user_injective (day : Date) (secret : String) :
    Function.Injective fun user => preimage user day secret
  day_injective (user secret : String) : Function.Injective fun day => preimage user day secret
  secret_injective (user : String) (day : Date) :
    Function.Injective fun secret => preimage user day secret
  of_secret (user user' secret : String) (day day' : Date) :
    0 ≤ day.year ∧ day.year ≤ 9999 → 0 ≤ day'.year ∧ day'.year ≤ 9999 →
      preimage user day secret = preimage user' day' secret → user = user' ∧ day = day'
  of_user (user secret secret' : String) (day day' : Date) :
    0 ≤ day.year ∧ day.year ≤ 9999 → 0 ≤ day'.year ∧ day'.year ≤ 9999 →
      preimage user day secret = preimage user day' secret' → day = day' ∧ secret = secret'
  length_eq (user : String) (day : Date) (secret : String) :
    (digested digest user day secret).toList.length = 128
  hexadecimal (user : String) (day : Date) (secret : String) :
    ∀ c ∈ (digested digest user day secret).toList, '0' ≤ c ∧ c ≤ '9' ∨ 'a' ≤ c ∧ c ≤ 'f'
  eq_iff (user user' secret secret' : String) (day day' : Date) :
    digested digest user day secret = digested digest user' day' secret' ↔
      digest (preimage user day secret) = digest (preimage user' day' secret')

/-- Tokens tell apart what they are made of, as far as digests do. -/
theorem digested_apart : (∀ digest : Bytes → Bytes, (∀ message, (digest message).length = 64) →
    TellsApart digest) ∧ digested sha512 = token := by
  refine ⟨?_, rfl⟩
  intro digest sized
  constructor
  case user_injective =>
    intro day secret user user' same
    have chars := preimage_eq_iff.mp same
    exact String.toList_inj.mp (List.append_cancel_right (List.append_cancel_right chars))
  case day_injective =>
    intro user secret day day' same
    have chars := preimage_eq_iff.mp same
    exact stamp_toList_inj.mp (List.append_cancel_left (List.append_cancel_right chars))
  case secret_injective =>
    intro user day secret secret' same
    have chars := preimage_eq_iff.mp same
    exact String.toList_inj.mp (List.append_cancel_left chars)
  case of_secret =>
    intro user user' secret day day' range range' same
    exact user_day_of_preimage range range' same
  case of_user =>
    intro user secret secret' day day' range range' same
    exact day_secret_of_preimage range range' same
  case length_eq =>
    intro user day secret
    rw [digested, String.toList_ofList, length_hex, sized]
  case hexadecimal =>
    intro user day secret c member
    rw [digested, String.toList_ofList] at member
    obtain ⟨d, small, rfl⟩ := mem_hex member
    exact digit_range small
  case eq_iff =>
    intro user user' secret secret' day day'
    rw [digested, digested, String.ofList_inj, hex_inj]

/-- A name that ends like a stamp is another name all the same. -/
theorem digested_apart_sha512 : TellsApart sha512 ∧
    preimage "ann2024/03/0" ⟨2024, 3, 7, by decide⟩ "k" ≠
      preimage "ann" ⟨2024, 3, 8, by decide⟩ "k" := by
  have apart := digested_apart.1 sha512 length_sha512
  refine ⟨apart, ?_⟩
  intro same
  have users := (apart.of_secret _ _ _ _ _ (by decide) (by decide) same).1
  exact absurd users (by decide)

end Token

end Handin
