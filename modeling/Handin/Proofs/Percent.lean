import Mathlib.Tactic.IntervalCases
import Handin.Proofs.Numeral
import Handin.Url.Percent

namespace Handin.Url

open Text

theorem charBytes_eq (c : Char) : charBytes c = String.utf8EncodeChar c := by
  simp [charBytes, utf8, String.toUTF8, List.utf8Encode]

theorem utf8_ofList (cs : List Char) : utf8 (String.ofList cs) = cs.flatMap charBytes := by
  have each : charBytes = String.utf8EncodeChar := funext charBytes_eq
  rw [each]
  simp [utf8, String.toUTF8, String.toByteArray_ofList, List.utf8Encode]

theorem digitValue?_upperDigit {n : Nat} (small : n < 16) : digitValue? (upperDigit n) = some n := by
  interval_cases n <;> rfl

theorem percentDecode_cons {c : Char} (plain : c ≠ '%') (rest : List Char) :
    percentDecode (c :: rest) = charBytes c ++ percentDecode rest := by
  rw [percentDecode]
  exact fun _ _ _ escape _ => plain escape

theorem percentDecode_byte (b : UInt8) (rest : List Char) :
    percentDecode (percentByte b ++ rest) = b :: percentDecode rest := by
  have size : b.toNat < 256 := b.toNat_lt
  have high : b.toNat / 16 < 16 := by omega
  have low : b.toNat % 16 < 16 := by omega
  have whole : 16 * (b.toNat / 16) + b.toNat % 16 = b.toNat := by omega
  simp only [percentByte, List.cons_append, List.nil_append]
  rw [percentDecode, digitValue?_upperDigit high, digitValue?_upperDigit low]
  simp only [whole, UInt8.ofNat_toNat]

theorem percentDecode_bytes (bs : Bytes) (rest : List Char) :
    percentDecode (bs.flatMap percentByte ++ rest) = bs ++ percentDecode rest := by
  induction bs with
  | nil => rfl
  | cons b bs ih =>
      rw [List.flatMap_cons, List.append_assoc, percentDecode_byte, ih, List.cons_append]

theorem percentDecode_encode {special : Char → Bool} (sign : special '%' = true) (cs : List Char) :
    percentDecode (percentEncode special cs) = utf8 (String.ofList cs) := by
  rw [utf8_ofList]
  unfold percentEncode
  induction cs with
  | nil => rfl
  | cons c rest ih =>
      rw [List.flatMap_cons, List.flatMap_cons]
      by_cases encoded : (isControl c || special c) = true
      · rw [if_pos encoded, percentDecode_bytes, ih]
      · -- a sign that stood for itself would be read as the start of an escape
        have plain : c ≠ '%' := by
          rintro rfl
          simp [sign] at encoded
        rw [if_neg encoded, List.singleton_append, percentDecode_cons plain, ih]

def decoded? (piece : List Char) : Option String := ofUtf8? (percentDecode piece)

theorem decoded?_encode {special : Char → Bool} (sign : special '%' = true) (s : String) :
    decoded? (percentEncode special s.toList) = some s := by
  rw [decoded?, percentDecode_encode sign, String.ofList_toList, ofUtf8?_utf8]

theorem mem_percentByte {b : UInt8} {c : Char} (member : c ∈ percentByte b) :
    c = '%' ∨ ∃ n < 16, c = upperDigit n := by
  have size : b.toNat < 256 := b.toNat_lt
  simp only [percentByte, List.mem_cons, List.not_mem_nil, or_false] at member
  rcases member with sign | high | low
  · exact .inl sign
  · exact .inr ⟨_, by omega, high⟩
  · exact .inr ⟨_, by omega, low⟩

theorem mem_percentEncode {special : Char → Bool} {cs : List Char} {c : Char}
    (member : c ∈ percentEncode special cs) :
    c = '%' ∨ (∃ n < 16, c = upperDigit n) ∨ special c = false := by
  obtain ⟨x, _, written⟩ := List.mem_flatMap.mp member
  by_cases encoded : (isControl x || special x) = true
  · rw [if_pos encoded] at written
    obtain ⟨b, _, digit⟩ := List.mem_flatMap.mp written
    rcases mem_percentByte digit with sign | hex
    · exact .inl sign
    · exact .inr (.inl hex)
  · rw [if_neg encoded] at written
    rw [List.mem_singleton.mp written]
    exact .inr (.inr (by simpa using (Bool.or_eq_false_iff.mp (Bool.eq_false_of_not_eq_true encoded)).2))

/-- A character that is always encoded does not come up, unless what encodes it is made of it. -/
theorem notMem_percentEncode {special : Char → Bool} {c : Char} (encoded : special c = true)
    (sign : c ≠ '%') (digits : ∀ n < 16, upperDigit n ≠ c) (cs : List Char) :
    c ∉ percentEncode special cs := by
  intro member
  rcases mem_percentEncode member with same | ⟨n, small, digit⟩ | kept
  · exact sign same
  · exact digits n small digit.symm
  · rw [encoded] at kept
    cases kept

theorem slash_notMem_percentEncode {special : Char → Bool} (slash : special '/' = true)
    (cs : List Char) : '/' ∉ percentEncode special cs :=
  notMem_percentEncode slash (by decide) (by decide) cs

theorem percentEncode_eq_self {special : Char → Bool} {cs : List Char}
    (plain : ∀ c ∈ cs, isControl c = false ∧ special c = false) : percentEncode special cs = cs := by
  unfold percentEncode
  induction cs with
  | nil => rfl
  | cons c rest ih =>
      obtain ⟨control, kept⟩ := plain c List.mem_cons_self
      have tail := ih fun x member => plain x (List.mem_cons_of_mem c member)
      rw [List.flatMap_cons, tail, control, kept]
      rfl

theorem utf8_of_ofUtf8? {bs : Bytes} {s : String} (read : ofUtf8? bs = some s) : utf8 s = bs := by
  unfold ofUtf8? String.fromUTF8? at read
  split at read
  · cases read
    simp [utf8, String.fromUTF8]
  · cases read

theorem charBytes_ascii {c : Char} (ascii : c.toNat < 0x80) : charBytes c = [UInt8.ofNat c.toNat] := by
  have value : c.val.toNat = c.toNat := rfl
  rw [charBytes_eq, String.utf8EncodeChar, if_pos (by omega), value]

theorem charBytes_high {c : Char} (wide : 0x80 ≤ c.toNat) : ∀ b ∈ charBytes c, 0x80 ≤ b.toNat := by
  have value : c.val.toNat = c.toNat := rfl
  have byte {n : Nat} (high : 0x80 ≤ n % 256) : 0x80 ≤ (UInt8.ofNat n).toNat := by
    simpa using high
  rw [charBytes_eq, String.utf8EncodeChar, if_neg (by omega), value]
  have last : ∀ b ∈ ([] : Bytes), 0x80 ≤ b.toNat := by simp
  split
  · simp only [List.forall_mem_cons]
    exact ⟨byte (by omega), byte (by omega), last⟩
  · split
    · simp only [List.forall_mem_cons]
      exact ⟨byte (by omega), byte (by omega), byte (by omega), last⟩
    · simp only [List.forall_mem_cons]
      exact ⟨byte (by omega), byte (by omega), byte (by omega), byte (by omega), last⟩

theorem eq_of_ascii_mem_charBytes {a c : Char} (ascii : a.toNat < 0x80)
    (member : UInt8.ofNat a.toNat ∈ charBytes c) : c = a := by
  have size : (UInt8.ofNat a.toNat).toNat = a.toNat := by
    rw [UInt8.toNat_ofNat']
    omega
  by_cases small : c.toNat < 0x80
  · rw [charBytes_ascii small] at member
    have same := congrArg UInt8.toNat (List.mem_singleton.mp member)
    rw [size, UInt8.toNat_ofNat'] at same
    exact Char.toNat_inj.mp (by omega)
  · have high := charBytes_high (Nat.not_lt.mp small) _ member
    omega

theorem colon_mem_percentDecode {cs : List Char} (member : ':' ∈ cs) :
    UInt8.ofNat ':'.toNat ∈ percentDecode cs := by
  have self : UInt8.ofNat ':'.toNat ∈ charBytes ':' := by
    rw [charBytes_ascii (by decide)]
    exact List.mem_singleton.mpr rfl
  fun_induction percentDecode cs with
  | case1 => cases member
  | case2 a b rest x y second first ih =>
      -- a colon is no digit, so an escape has none
      have other (d : Char) (n : Nat) (digit : digitValue? d = some n) : d ≠ ':' := by
        rintro rfl
        cases digit
      simp only [List.mem_cons, (other a x first).symm, (other b y second).symm, false_or] at member
      rcases member with sign | later
      · cases sign
      · exact List.mem_cons_of_mem _ (ih later)
  | case3 a b rest bad ih =>
      rcases List.mem_cons.mp member with sign | later
      · cases sign
      · exact List.mem_append_right _ (ih later)
  | case4 c rest plain ih =>
      rcases List.mem_cons.mp member with rfl | later
      · exact List.mem_append_left _ self
      · exact List.mem_append_right _ (ih later)

theorem colon_mem_decoded {cs : List Char} {s : String} (read : decoded? cs = some s)
    (member : ':' ∈ cs) : ':' ∈ s.toList := by
  have bytes := utf8_of_ofUtf8? read
  have inside := colon_mem_percentDecode member
  rw [← bytes, ← String.ofList_toList (s := s), utf8_ofList] at inside
  obtain ⟨c, found, byte⟩ := List.mem_flatMap.mp inside
  rwa [eq_of_ascii_mem_charBytes (by decide) byte] at found

end Handin.Url
