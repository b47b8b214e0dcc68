import Handin.Calendar
import Handin.Proofs.Numeral
import Handin.Proofs.Words

namespace Handin

namespace Text

theorem not_isBlank_of_isDigit {c : Char} (digit : isDigit c = true) : isBlank c = false := by
  have range := isDigit_iff.mp digit
  apply Bool.eq_false_of_not_eq_true
  intro blank
  simp only [isBlank, Bool.or_eq_true, Bool.and_eq_true, decide_eq_true_eq, beq_iff_eq] at blank
  omega

variable {ds rest : List Char} {n : Nat}

theorem Spells.head_isDigit (spells : Spells ds n) (rest : List Char) :
    ∀ c ∈ (ds ++ rest).head?, isDigit c = true := by
  intro c first
  cases ds with
  | nil => exact absurd rfl spells.ne_nil
  | cons x ds =>
      cases first
      exact spells.digits c List.mem_cons_self

theorem Spells.head_not_isBlank (spells : Spells ds n) (rest : List Char) :
    ∀ c ∈ (ds ++ rest).head?, isBlank c = false := fun c first =>
  not_isBlank_of_isDigit (spells.head_isDigit rest c first)

end Text

namespace Date

open Text

/-- The numeral of a year: up to four digits, or a sign and one digit or more. -/
inductive SpellsYear : List Char → Int → Prop
  | plain {ds : List Char} {n : Nat} : ds.length ≤ 4 → Spells ds n → SpellsYear ds n
  | plus {ds : List Char} {n : Nat} : Spells ds n → SpellsYear ('+' :: ds) n
  | minus {ds : List Char} {n : Nat} : Spells ds n → SpellsYear ('-' :: ds) (-n)

/-- A year, a month and a day with slashes between them, and blanks before each if any. -/
inductive Denotes : List Char → Int → Nat → Nat → Prop
  | numerals {before ys before' ms before'' ds : List Char} {year : Int} {month day : Nat} :
      AllBlank before → SpellsYear ys year →
      AllBlank before' → ms.length ≤ 2 → Spells ms month →
      AllBlank before'' → ds.length ≤ 2 → Spells ds day →
      Denotes (before ++ ys ++ '/' :: (before' ++ ms ++ '/' :: (before'' ++ ds))) year month day

variable {width n : Nat} {ds cs rest : List Char}

theorem number?_append (short : ds.length ≤ width) (spells : Spells ds n)
    (ends : ∀ c ∈ rest.head?, isDigit c = false) : number? width (ds ++ rest) = some (n, rest) := by
  have stops : ∀ c, (rest.take (width - ds.length)).head? = some c → isDigit c = false := by
    intro c next
    rw [List.head?_take] at next
    split at next
    · cases next
    · exact ends c next
  have digits : ((ds ++ rest).take width).takeWhile isDigit = ds := by
    rw [List.take_append, List.take_of_length_le short, (takeWhile_append isDigit ds stops).1]
    exact List.takeWhile_eq_self_iff.mpr spells.digits
  simp [number?, digits, value?_iff.mpr spells]

theorem number?_some (read : number? width cs = some (n, rest)) :
    ∃ ds, cs = ds ++ rest ∧ ds.length ≤ width ∧ Spells ds n := by
  simp only [number?, Option.bind_eq_bind, Option.bind_eq_some_iff] at read
  obtain ⟨n', value, same⟩ := read
  cases same
  have front : (cs.take width).takeWhile isDigit <+: cs.take width := List.takeWhile_prefix isDigit
  refine ⟨_, ?_, ?_, value?_iff.mp value⟩
  · exact (List.prefix_iff_eq_append.mp (front.trans (List.take_prefix width cs))).symm
  · exact Nat.le_trans front.length_le (List.length_take_le width cs)

theorem year?_append {ys : List Char} {year : Int} (spells : SpellsYear ys year)
    (ends : ∀ c ∈ rest.head?, isDigit c = false) : year? (ys ++ rest) = some (year, rest) := by
  cases spells with
  | @plain ds n short spells =>
      have first := spells.head_isDigit rest
      have read := number?_append short spells ends
      unfold year?
      split
      · next more signed =>
          rw [signed] at first
          cases first '-' rfl
      · next more signed =>
          rw [signed] at first
          cases first '+' rfl
      · rw [read]
        rfl
  | @plus ds n spells =>
      have room : ds.length ≤ (ds ++ rest).length := by simp
      rw [List.cons_append, year?, number?_append room spells ends]
      rfl
  | @minus ds n spells =>
      have room : ds.length ≤ (ds ++ rest).length := by simp
      rw [List.cons_append, year?, number?_append room spells ends]
      rfl

theorem year?_some {year : Int} (read : year? cs = some (year, rest)) :
    ∃ ys, cs = ys ++ rest ∧ SpellsYear ys year := by
  unfold year? at read
  split at read
  · obtain ⟨⟨n, more⟩, number, same⟩ := Option.map_eq_some_iff.mp read
    cases same
    obtain ⟨ds, rfl, _, spells⟩ := number?_some number
    exact ⟨'-' :: ds, rfl, .minus spells⟩
  · obtain ⟨⟨n, more⟩, number, same⟩ := Option.map_eq_some_iff.mp read
    cases same
    obtain ⟨ds, rfl, _, spells⟩ := number?_some number
    exact ⟨'+' :: ds, rfl, .plus spells⟩
  · obtain ⟨⟨n, more⟩, number, same⟩ := Option.map_eq_some_iff.mp read
    cases same
    obtain ⟨ds, rfl, short, spells⟩ := number?_some number
    exact ⟨ds, rfl, .plain short spells⟩

theorem SpellsYear.head_not_isBlank {ys : List Char} {year : Int} (spells : SpellsYear ys year)
    (rest : List Char) : ∀ c ∈ (ys ++ rest).head?, isBlank c = false := by
  cases spells with
  | plain _ spells => exact spells.head_not_isBlank rest
  | plus spells =>
      intro c first
      cases first
      rfl
  | minus spells =>
      intro c first
      cases first
      rfl

theorem afterSlash?_some (read : afterSlash? cs = some rest) : cs = '/' :: rest := by
  unfold afterSlash? at read
  split at read
  · cases read
    rfl
  · cases read

theorem of?_some {year : Int} {month day : Nat} {d : Date} (found : of? year month day = some d) :
    d.year = year ∧ d.month = month ∧ d.day = day := by
  unfold of? at found
  split at found
  · cases found
    exact ⟨rfl, rfl, rfl⟩
  · cases found

theorem ofStampChars?_of_denotes {year : Int} {month day : Nat}
    (denotes : Denotes cs year month day) : ofStampChars? cs = of? year month day := by
  obtain ⟨blank, spells_year, blank', short, spells_month, blank'', short', spells_day⟩ := denotes
  have slash (more : List Char) : ∀ c ∈ ('/' :: more).head?, isDigit c = false := by
    intro c first
    cases first
    rfl
  have final : ∀ c ∈ ([] : List Char).head?, isDigit c = false := by simp
  have read_day := number?_append short' spells_day final
  have solid_day := spells_day.head_not_isBlank []
  rw [List.append_nil] at read_day solid_day
  -- number by number: the blanks before it are dropped, and it is read up to the slash after it
  simp only [ofStampChars?, Option.bind_eq_bind, List.append_assoc]
  rw [trimLeft_append blank (spells_year.head_not_isBlank _), year?_append spells_year (slash _)]
  simp only [Option.bind_some, afterSlash?]
  rw [trimLeft_append blank' (spells_month.head_not_isBlank _),
    number?_append short spells_month (slash _)]
  simp only [Option.bind_some]
  rw [trimLeft_append blank'' solid_day, read_day]
  rfl

theorem denotes_of_ofStampChars? {d : Date} (read : ofStampChars? cs = some d) :
    Denotes cs d.year d.month d.day := by
  simp only [ofStampChars?, Option.bind_eq_bind, Option.bind_eq_some_iff] at read
  obtain ⟨⟨year, cs₁⟩, read_year, cs₂, slash, ⟨month, cs₃⟩, read_month, cs₄, slash', ⟨day, cs₅⟩,
    read_day, found⟩ := read
  obtain ⟨before, blank, lead⟩ := exists_trimLeft cs
  obtain ⟨before', blank', lead'⟩ := exists_trimLeft cs₂
  obtain ⟨before'', blank'', lead''⟩ := exists_trimLeft cs₄
  obtain ⟨ys, cut, spells_year⟩ := year?_some read_year
  obtain ⟨ms, cut', short, spells_month⟩ := number?_some read_month
  obtain ⟨ds, cut'', short', spells_day⟩ := number?_some read_day
  dsimp only at slash slash' found
  split at found
  · next final =>
      obtain ⟨rfl, rfl, rfl⟩ := of?_some found
      have whole : cs = before ++ ys ++ '/' :: (before' ++ ms ++ '/' :: (before'' ++ ds)) := by
        rw [lead, cut, afterSlash?_some slash, lead', cut', afterSlash?_some slash', lead'', cut'',
          List.isEmpty_iff.mp final]
        simp
      rw [whole]
      exact .numerals blank spells_year blank' short spells_month blank'' short' spells_day
  · cases found

theorem of?_date (d : Date) : of? d.year d.month d.day = some d := dif_pos d.onCalendar

theorem spellsYear_yearText (year : Int) : SpellsYear (yearText year) year := by
  unfold yearText
  split
  · next range =>
      have value : (year.toNat : Int) = year := Int.toNat_of_nonneg range.1
      have wide : (padded 4 year.toNat).length = 4 := length_padded (by decide) (by omega)
      have plain := SpellsYear.plain (Nat.le_of_eq wide) (spells_padded 4 year.toNat)
      rwa [value] at plain
  · split
    · next negative =>
        have value : -(year.natAbs : Int) = year := by omega
        have minus := SpellsYear.minus (spells_padded 4 year.natAbs)
        rwa [value] at minus
    · next positive =>
        have value : (year.natAbs : Int) = year := by omega
        have plus := SpellsYear.plus (spells_padded 4 year.natAbs)
        rwa [value] at plus

theorem daysIn_le (year : Int) (month : Nat) : daysIn year month ≤ 31 := by
  unfold daysIn
  repeat' split
  all_goals decide

theorem month_lt (d : Date) : d.month < 10 ^ 2 := by
  obtain ⟨_, _, _, most, _, _⟩ := d.onCalendar
  omega

theorem day_lt (d : Date) : d.day < 10 ^ 2 := by
  obtain ⟨_, _, _, _, _, most⟩ := d.onCalendar
  have bound := daysIn_le d.year d.month
  omega

theorem denotes_stampChars (d : Date) : Denotes d.stampChars d.year d.month d.day := by
  have two (n : Nat) (small : n < 10 ^ 2) : (padded 2 n).length ≤ 2 :=
    Nat.le_of_eq (length_padded (by decide) small)
  have whole := Denotes.numerals allBlank_nil (spellsYear_yearText d.year)
    allBlank_nil (two d.month d.month_lt) (spells_padded 2 d.month)
    allBlank_nil (two d.day d.day_lt) (spells_padded 2 d.day)
  exact whole

theorem ofStamp?_stamp (d : Date) : ofStamp? d.stamp = some d := by
  rw [ofStamp?, stamp, String.toList_ofList, ofStampChars?_of_denotes d.denotes_stampChars, of?_date]

theorem stamp_injective : Function.Injective stamp := by
  intro d d' same
  have back := ofStamp?_stamp d
  rw [same, ofStamp?_stamp d'] at back
  exact (Option.some.inj back).symm

structure TenWide (cs : List Char) : Prop where
  length_eq : cs.length = 10
  parts : ∃ ys ms ds, cs = ys ++ '/' :: (ms ++ '/' :: ds) ∧
    ys.length = 4 ∧ ms.length = 2 ∧ ds.length = 2 ∧ ∀ c ∈ ys ++ ms ++ ds, isDigit c = true

theorem tenWide_stamp {d : Date} (least : 0 ≤ d.year) (most : d.year ≤ 9999) :
    TenWide d.stamp.toList := by
  have year : yearText d.year = padded 4 d.year.toNat := if_pos ⟨least, most⟩
  have ys : (padded 4 d.year.toNat).length = 4 := length_padded (by decide) (by omega)
  have ms : (padded 2 d.month).length = 2 := length_padded (by decide) d.month_lt
  have ds : (padded 2 d.day).length = 2 := length_padded (by decide) d.day_lt
  rw [stamp, String.toList_ofList, stampChars, year]
  constructor
  · simp [ys, ms, ds]
  · refine ⟨_, _, _, rfl, ys, ms, ds, ?_⟩
    simp only [List.forall_mem_append]
    exact ⟨⟨(spells_padded 4 _).digits, (spells_padded 2 _).digits⟩, (spells_padded 2 _).digits⟩

/-- How dates and stamps correspond. -/
structure Stamps : Prop where
  ofStamp?_stamp (d : Date) : ofStamp? d.stamp = some d
  injective : Function.Injective stamp
  tenWide (d : Date) : 0 ≤ d.year → d.year ≤ 9999 → TenWide d.stamp.toList
  ofStamp?_iff (text : String) (d : Date) :
    ofStamp? text = some d ↔ Denotes text.toList d.year d.month d.day
  isSome_iff (text : String) : (ofStamp? text).isSome = true ↔
    ∃ year month day, Denotes text.toList year month day ∧ OnCalendar year month day
  rewritten (text : String) (d : Date) : ofStamp? text = some d → ofStamp? d.stamp = ofStamp? text

theorem ofStamp?_iff {text : String} {d : Date} :
    ofStamp? text = some d ↔ Denotes text.toList d.year d.month d.day := by
  constructor
  · exact denotes_of_ofStampChars?
  · intro denotes
    rw [ofStamp?, ofStampChars?_of_denotes denotes, of?_date]

/-- Over the whole calendar, dates are written and read back. -/
theorem stamps : Stamps where
  ofStamp?_stamp := ofStamp?_stamp
  injective := stamp_injective
  tenWide d least most := tenWide_stamp least most
  ofStamp?_iff text d := ofStamp?_iff
  isSome_iff text := by
    constructor
    · intro accepted
      obtain ⟨d, read⟩ := Option.isSome_iff_exists.mp accepted
      exact ⟨d.year, d.month, d.day, ofStamp?_iff.mp read, d.onCalendar⟩
    · rintro ⟨year, month, day, denotes, existing⟩
      have read : ofStamp? text = some ⟨year, month, day, existing⟩ := ofStamp?_iff.mpr denotes
      rw [read]
      rfl
  rewritten text d read := by rw [ofStamp?_stamp, read]

theorem stamps_leapDay : ofStamp? " -4/2/29" = some ⟨-4, 2, 29, by decide⟩ ∧
    TenWide (stamp ⟨2024, 2, 29, by decide⟩).toList := by
  have lead : AllBlank [' '] := by decide
  have year : Spells ['4'] 4 := ⟨by decide, List.all_eq_true.mp rfl, rfl⟩
  have month : Spells ['2'] 2 := ⟨by decide, List.all_eq_true.mp rfl, rfl⟩
  have day : Spells ['2', '9'] 29 := ⟨by decide, List.all_eq_true.mp rfl, rfl⟩
  have denotes := Denotes.numerals lead (.minus year) allBlank_nil (by decide) month allBlank_nil
    (by decide) day
  exact ⟨(stamps.ofStamp?_iff _ _).mpr denotes, stamps.tenWide _ (by decide) (by decide)⟩

end Date

end Handin
