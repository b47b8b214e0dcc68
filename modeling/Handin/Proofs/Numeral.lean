import Mathlib.Tactic.IntervalCases
import Handin.Text.Numeral

namespace Handin.Text

theorem digitValue?_digit {d : Nat} (small : d < 16) : digitValue? (digit d) = some d := by
  interval_cases d <;> rfl

theorem ne_digit {c : Char} (other : digitValue? c = none) {d : Nat} (small : d < 16) :
    c ≠ digit d := by
  rintro rfl
  rw [digitValue?_digit small] at other
  cases other

theorem isDigit_digit {d : Nat} (small : d < 10) : isDigit (digit d) = true := by
  interval_cases d <;> rfl

def readDigit (base : Nat) (acc : Option Nat) (c : Char) : Option Nat := do
  let n ← acc
  let d ← digitValue? c
  if d < base then some (n * base + d) else none

theorem value?_eq {base : Nat} {cs : List Char} (filled : cs ≠ []) :
    value? base cs = cs.foldl (readDigit base) (some 0) := by
  cases cs with
  | nil => exact absurd rfl filled
  | cons c rest => rfl

theorem value?_numeral {base : Nat} (two : 2 ≤ base) (most : base ≤ 16) (n : Nat) :
    numeral base n ≠ [] ∧ value? base (numeral base n) = some n := by
  fun_induction numeral base n with
  | case1 n last =>
      have small : n < base := by omega
      have read := digitValue?_digit (Nat.lt_of_lt_of_le small most)
      refine ⟨List.cons_ne_nil _ _, ?_⟩
      rw [value?_eq (List.cons_ne_nil _ _)]
      simp [readDigit, read, small]
  | case2 n more ih =>
      obtain ⟨filled, front⟩ := ih
      have small : n % base < base := Nat.mod_lt n (by omega)
      have read := digitValue?_digit (Nat.lt_of_lt_of_le small most)
      have filled' : numeral base (n / base) ++ [digit (n % base)] ≠ [] := by simp
      refine ⟨filled', ?_⟩
      rw [value?_eq filled] at front
      rw [value?_eq filled', List.foldl_append, front]
      have whole : n / base * base + n % base = n := Nat.div_add_mod' n base
      simp [readDigit, read, small, whole]

theorem numeral_inj {base m n : Nat} (two : 2 ≤ base) (most : base ≤ 16)
    (same : numeral base m = numeral base n) : m = n := by
  have value := (value?_numeral two most n).2
  rw [← same, (value?_numeral two most m).2] at value
  exact Option.some.inj value

theorem mem_numeral {base n : Nat} {c : Char} (two : 2 ≤ base) (member : c ∈ numeral base n) :
    ∃ d < base, c = digit d := by
  fun_induction numeral base n with
  | case1 n last => exact ⟨n, by omega, List.mem_singleton.mp member⟩
  | case2 n more ih =>
      rcases List.mem_append.mp member with front | final
      · exact ih front
      · exact ⟨n % base, Nat.mod_lt n (by omega), List.mem_singleton.mp final⟩

theorem isDigit_of_mem_decimal {n : Nat} {c : Char} (member : c ∈ decimal n) :
    isDigit c = true := by
  obtain ⟨d, small, rfl⟩ := mem_numeral (by decide) member
  exact isDigit_digit small

theorem decimal_ne_nil (n : Nat) : decimal n ≠ [] :=
  (value?_numeral (by decide) (by decide) n).1

theorem value?_decimal (n : Nat) : value? 10 (decimal n) = some n :=
  (value?_numeral (by decide) (by decide) n).2

theorem unsigned?_decimal {bound n : Nat} (within : n ≤ bound) :
    unsigned? bound (decimal n) = some n := by
  have unsigned : unsigned? bound (decimal n) = (value? 10 (decimal n)).filter (· ≤ bound) := by
    unfold unsigned?
    split
    · next rest signed =>
        have sign : isDigit '+' = true := by
          apply isDigit_of_mem_decimal (n := n)
          rw [signed]
          exact List.mem_cons_self
        cases sign
    · rfl
  rw [unsigned, value?_decimal]
  simp [within]

theorem foldl_readDigit_none (base : Nat) (cs : List Char) :
    cs.foldl (readDigit base) none = none := by
  induction cs with
  | nil => rfl
  | cons c rest ih => exact ih

theorem digitValue?_of_value? {base n : Nat} {cs : List Char} (read : value? base cs = some n)
    {c : Char} (member : c ∈ cs) : (digitValue? c).isSome = true := by
  have digits : ∀ (cs : List Char) (acc : Option Nat), (cs.foldl (readDigit base) acc).isSome →
      ∀ c ∈ cs, (digitValue? c).isSome = true := by
    intro cs
    induction cs with
    | nil => simp
    | cons x rest ih =>
        intro acc complete c member
        rw [List.foldl_cons] at complete
        rcases List.mem_cons.mp member with rfl | later
        · cases value : digitValue? c with
          | some d => rfl
          | none =>
              have stuck : readDigit base acc c = none := by
                cases acc <;> simp [readDigit, value]
              rw [stuck, foldl_readDigit_none] at complete
              cases complete
        · exact ih _ complete c later
  rw [value?_eq (List.ne_nil_of_mem member)] at read
  exact digits cs (some 0) (by rw [read]; rfl) c member

theorem plus_or_digit_of_unsigned? {bound n : Nat} {cs : List Char}
    (read : unsigned? bound cs = some n) {c : Char} (member : c ∈ cs) :
    c = '+' ∨ (digitValue? c).isSome = true := by
  unfold unsigned? at read
  split at read
  · next rest =>
      rcases List.mem_cons.mp member with first | later
      · exact .inl first
      · exact .inr (digitValue?_of_value? (Option.eq_some_of_filter_eq_some read) later)
  · exact .inr (digitValue?_of_value? (Option.eq_some_of_filter_eq_some read) member)

def addPlace (n : Nat) (c : Char) : Nat := 10 * n + (c.toNat - '0'.toNat)

/-- Digits, one or more, that stand for a number. -/
structure Spells (ds : List Char) (n : Nat) : Prop where
  ne_nil : ds ≠ []
  digits : ∀ c ∈ ds, isDigit c = true
  value_eq : ds.foldl addPlace 0 = n

theorem isDigit_iff {c : Char} : isDigit c = true ↔ 48 ≤ c.toNat ∧ c.toNat ≤ 57 := by
  simp only [isDigit, Bool.and_eq_true, decide_eq_true_eq]
  exact Iff.rfl

theorem digitValue?_lt_ten_iff {c : Char} {d : Nat} (value : digitValue? c = some d) :
    d < 10 ↔ isDigit c = true := by
  have lower : '0' ≤ c ∧ c ≤ '9' ↔ 48 ≤ c.toNat ∧ c.toNat ≤ 57 := Iff.rfl
  have small : 'a' ≤ c ∧ c ≤ 'f' ↔ 97 ≤ c.toNat ∧ c.toNat ≤ 102 := Iff.rfl
  have large : 'A' ≤ c ∧ c ≤ 'F' ↔ 65 ≤ c.toNat ∧ c.toNat ≤ 70 := Iff.rfl
  simp only [digitValue?, Bool.and_eq_true, decide_eq_true_eq, lower, small, large] at value
  rw [isDigit_iff]
  repeat' split at value
  all_goals cases value
  all_goals omega

theorem digitValue?_of_isDigit {c : Char} (digit : isDigit c = true) :
    digitValue? c = some (c.toNat - '0'.toNat) := if_pos digit

theorem readDigit_ten (n : Nat) (c : Char) :
    readDigit 10 (some n) c = if isDigit c then some (addPlace n c) else none := by
  by_cases digit : isDigit c = true
  · have value := digitValue?_of_isDigit digit
    have small : c.toNat - '0'.toNat < 10 := (digitValue?_lt_ten_iff value).mpr digit
    rw [if_pos digit]
    simp only [readDigit, value, Option.bind_eq_bind, Option.bind_some, if_pos small, addPlace,
      Nat.mul_comm n]
  · rw [if_neg digit]
    cases value : digitValue? c with
    | none => simp [readDigit, value]
    | some d =>
        have large : ¬ d < 10 := mt (digitValue?_lt_ten_iff value).mp digit
        simp [readDigit, value, large]

theorem foldl_readDigit_iff {cs : List Char} {a n : Nat} :
    cs.foldl (readDigit 10) (some a) = some n ↔
      (∀ c ∈ cs, isDigit c = true) ∧ cs.foldl addPlace a = n := by
  induction cs generalizing a with
  | nil => simp
  | cons c rest ih =>
      rw [List.foldl_cons, readDigit_ten]
      by_cases digit : isDigit c = true
      · rw [if_pos digit, ih]
        simp [digit]
      · rw [if_neg digit, foldl_readDigit_none]
        simp [digit]

theorem value?_iff {ds : List Char} {n : Nat} : value? 10 ds = some n ↔ Spells ds n := by
  cases ds with
  | nil =>
      constructor
      · intro read
        cases read
      · intro spells
        exact absurd rfl spells.ne_nil
  | cons c rest =>
      rw [value?_eq (List.cons_ne_nil c rest), foldl_readDigit_iff]
      constructor
      · rintro ⟨digits, value⟩
        exact ⟨List.cons_ne_nil c rest, digits, value⟩
      · rintro ⟨_, digits, value⟩
        exact ⟨digits, value⟩

theorem spells_decimal (n : Nat) : Spells (decimal n) n := value?_iff.mp (value?_decimal n)

theorem length_decimal_le {n k : Nat} (positive : 0 < k) (bound : n < 10 ^ k) :
    (decimal n).length ≤ k := by
  induction k generalizing n with
  | zero => omega
  | succ k ih =>
      rw [decimal, numeral]
      split
      · exact Nat.le_add_left 1 k
      · next more =>
          have small : n / 10 < 10 ^ k := by
            rw [Nat.pow_succ] at bound
            omega
          have some_left : 0 < k := by
            apply Nat.pos_of_ne_zero
            rintro rfl
            omega
          have front : (numeral 10 (n / 10)).length ≤ k := ih some_left small
          rw [List.length_append, List.length_singleton]
          omega

theorem length_padded {width n : Nat} (positive : 0 < width) (bound : n < 10 ^ width) :
    (padded width n).length = width := by
  have short := length_decimal_le positive bound
  simp only [padded, List.length_append, List.length_replicate]
  omega

theorem spells_padded (width n : Nat) : Spells (padded width n) n := by
  obtain ⟨filled, digits, value⟩ := spells_decimal n
  have zeros (k : Nat) : (List.replicate k '0').foldl addPlace 0 = 0 := by
    induction k with
    | zero => rfl
    | succ k ih => exact ih
  refine ⟨by simp [padded, filled], ?_, ?_⟩
  · intro c member
    rcases List.mem_append.mp member with zero | digit
    · rw [List.eq_of_mem_replicate zero]
      rfl
    · exact digits c digit
  · rw [padded, List.foldl_append, zeros, value]

end Handin.Text
