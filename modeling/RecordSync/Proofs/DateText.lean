import Mathlib.Algebra.Ring.Nat
import RecordSync.Calendar.Reading
import RecordSync.Calendar.Text
import RecordSync.Proofs.Civil

/-! Dates as text and back: what is written of a kept date is read as that date. -/

namespace RecordSync

open RecordSync.Text

namespace Text

theorem isBlank_of_isDigit {c : Char} (digit : c.isDigit = true) : isBlank c = false := by
  simp only [Char.isDigit, Bool.and_eq_true, decide_eq_true_eq, ge_iff_le, UInt32.le_iff_toNat_le]
    at digit
  have low : 48 ≤ c.toNat := digit.1
  have high : c.toNat ≤ 57 := digit.2
  simp only [isBlank, Bool.or_eq_false_iff, Bool.and_eq_false_imp, decide_eq_true_eq,
    decide_eq_false_iff_not, beq_eq_false_iff_ne]
  omega

/-- A run of digits counts as it does for the numbers that are written. -/
theorem digitsValue_eq {chars : List Char} (digits : ∀ c ∈ chars, c.isDigit = true) :
    digitsValue chars = Nat.ofDigitChars 10 chars 0 := by
  have from_value (value : Nat) :
      chars.foldl (fun value c => value * 10 + (digit? c).getD 0) value =
        Nat.ofDigitChars 10 chars value := by
    induction chars generalizing value with
    | nil => rfl
    | cons c rest ih =>
      rw [List.foldl_cons, Nat.ofDigitChars_cons, ih fun c member => digits c (by simp [member])]
      simp [digit?, digits c (by simp), Nat.mul_comm]
  exact from_value 0

theorem toList_padZero (width value : Nat) : (padZero width value).toList =
    List.replicate (width - (Nat.toDigits 10 value).length) '0' ++ Nat.toDigits 10 value := by
  simp [padZero, ← String.length_toList]

theorem isDigit_of_mem_padZero {width value : Nat} :
    ∀ c ∈ (padZero width value).toList, c.isDigit = true := by
  intro c member
  rw [toList_padZero, List.mem_append] at member
  rcases member with zero | digit
  · rw [(List.mem_replicate.mp zero).2]
    rfl
  · exact Nat.isDigit_of_mem_toDigits (by omega) (by omega) digit

theorem padZero_ne_nil (width value : Nat) : (padZero width value).toList ≠ [] := by
  simp [toList_padZero, Nat.toDigits_ne_nil]

/-- A number that is written is read as that number. -/
theorem digitsValue_padZero (width value : Nat) :
    digitsValue (padZero width value).toList = value := by
  rw [digitsValue_eq isDigit_of_mem_padZero, toList_padZero, Nat.ofDigitChars_append,
    Nat.ofDigitChars_replicate_zero, Nat.mul_zero, Nat.ofDigitChars_ten_toDigits]

theorem length_padZero {width value : Nat} (some : 0 < width) (fits : value < 10 ^ width) :
    (padZero width value).toList.length = width := by
  have short := (Nat.length_toDigits_le_iff (by omega : 1 < 10) some).mpr fits
  simp only [toList_padZero, List.length_append, List.length_replicate]
  omega

/-- Numbers are told apart by how they are written. -/
theorem padZero_injective {width value other : Nat}
    (same : (padZero width value).toList = (padZero width other).toList) : value = other := by
  rw [← digitsValue_padZero width value, same, digitsValue_padZero]

end Text

namespace Calendar

/-- A run of digits is read as far as it goes, or as wide as it is. -/
theorem readDigits_append {width : Option Nat} {digits rest : List Char}
    (all : ∀ c ∈ digits, c.isDigit = true) (nonempty : digits ≠ [])
    (ends : width = some digits.length ∨ width = none ∧ ∀ c ∈ rest.head?, c.isDigit = false)
    (small : digitsValue digits < Number.signed64) :
    readDigits width (digits ++ rest) = .ok (digitsValue digits, rest) := by
  have fits : ¬ Number.signed64 ≤ digitsValue digits := Nat.not_le.mpr small
  rcases ends with rfl | ⟨rfl, stops⟩
  · have run : digits.takeWhile Char.isDigit = digits := by
      simpa using @List.takeWhile_append_of_pos _ Char.isDigit digits [] all
    simp [readDigits, run, nonempty, fits]
  · have run : (digits ++ rest).takeWhile Char.isDigit = digits := by
      rw [List.takeWhile_append_of_pos all]
      cases rest with
      | nil => simp
      | cons c rest => simp [stops c (by simp)]
    simp [readDigits, run, nonempty, fits]

/-- No digit is a blank. -/
theorem dropWhile_isBlank_append {digits rest : List Char}
    (all : ∀ c ∈ digits, c.isDigit = true) (nonempty : digits ≠ []) :
    (digits ++ rest).dropWhile isBlank = digits ++ rest := by
  cases digits with
  | nil => exact absurd rfl nonempty
  | cons c others => simp [isBlank_of_isDigit (all c (by simp))]

theorem readPart_append {bound value : Nat} {rest : List Char} (low : 1 ≤ value)
    (high : value ≤ bound) (short : value < 100) :
    readPart bound ((padZero 2 value).toList ++ rest) = .ok (value, rest) := by
  have length : (padZero 2 value).toList.length = 2 := length_padZero (by omega) (by omega)
  have read := @readDigits_append (some 2) _ rest isDigit_of_mem_padZero (padZero_ne_nil 2 value)
    (.inl (by rw [length])) (by rw [digitsValue_padZero, Number.signed64]; omega)
  rw [digitsValue_padZero] at read
  unfold readPart
  rw [dropWhile_isBlank_append isDigit_of_mem_padZero (padZero_ne_nil 2 value), read]
  simp [low, high, bind, Except.bind, pure, Except.pure]

private theorem readYear_unsigned {digits rest : List Char}
    (all : ∀ c ∈ digits, c.isDigit = true) (nonempty : digits ≠ []) {value : Nat}
    (read : readDigits (some 4) (digits ++ rest) = .ok (value, rest))
    (within : (value : Int) < Number.signed32) :
    readYear (digits ++ rest) = .ok (value, rest) := by
  have low : -(Number.signed32 : Int) ≤ value := by omega
  unfold readYear
  rw [dropWhile_isBlank_append all nonempty]
  cases digits with
  | nil => exact absurd rfl nonempty
  | cons c others =>
    have digit := all c (by simp)
    rw [List.cons_append] at read ⊢
    split
    · rename_i minus
      cases minus
      cases digit
    · rename_i plus
      cases plus
      cases digit
    · simp [read, within, low, Except.map, bind, Except.bind, pure, Except.pure]

theorem readYear_append {year : Int} {rest : List Char} (low : firstYear ≤ year)
    (high : year ≤ lastYear) :
    readYear ((yearText year).toList ++ '-' :: rest) = .ok (year, '-' :: rest) := by
  have within : -(Number.signed32 : Int) ≤ year ∧ year < Number.signed32 := by
    simp only [firstYear, lastYear, Number.signed32] at *
    omega
  have small : ∀ value : Nat, value ≤ year.natAbs → value < Number.signed64 := by
    simp only [firstYear, lastYear, Number.signed64] at *
    omega
  have signed : readDigits none ((padZero 4 year.natAbs).toList ++ '-' :: rest) =
      .ok (year.natAbs, '-' :: rest) := by
    have read := @readDigits_append none _ ('-' :: rest) isDigit_of_mem_padZero
      (padZero_ne_nil 4 year.natAbs) (.inr ⟨rfl, by simp⟩)
      (by rw [digitsValue_padZero]; exact small _ (Nat.le_refl _))
    rwa [digitsValue_padZero] at read
  unfold yearText
  split
  · rename_i plain
    have length : (padZero 4 year.toNat).toList.length = 4 :=
      length_padZero (by omega) (by omega)
    have read := @readDigits_append (some 4) _ ('-' :: rest) isDigit_of_mem_padZero
      (padZero_ne_nil 4 year.toNat) (.inl (by rw [length]))
      (by rw [digitsValue_padZero]; exact small _ (by omega))
    rw [digitsValue_padZero] at read
    have whole : (year.toNat : Int) = year := by omega
    have found := readYear_unsigned isDigit_of_mem_padZero (padZero_ne_nil 4 year.toNat) read
      (by omega)
    rwa [whole] at found
  · generalize size : year.natAbs = digits at signed ⊢
    have plus : ('+' :: ((padZero 4 digits).toList ++ '-' :: rest)).dropWhile isBlank =
        '+' :: ((padZero 4 digits).toList ++ '-' :: rest) := rfl
    have minus : ('-' :: ((padZero 4 digits).toList ++ '-' :: rest)).dropWhile isBlank =
        '-' :: ((padZero 4 digits).toList ++ '-' :: rest) := rfl
    split
    · rename_i before
      have whole : -(digits : Int) = year := by omega
      simp [readYear, minus, signed, whole, within, Except.map, bind, Except.bind, pure, Except.pure]
    · have whole : (digits : Int) = year := by omega
      simp [readYear, plus, signed, whole, within, Except.map, bind, Except.bind, pure, Except.pure]

/-- What is written of a kept date is read as that date. -/
theorem Date.read_text {date : Date} (kept : date.Kept) : Date.read date.text = .ok date := by
  have real := date.civil_isReal
  obtain ⟨low, high⟩ := kept.year_bounds
  have named : date.civil.date? = some date := by
    simp [Civil.date?, real, low, high, Date.ofCivil_civil]
  have days : daysInMonth date.civil.year date.civil.month ≤ 31 := daysInMonth_le _ _
  simp only [Civil.isReal, Bool.and_eq_true, decide_eq_true_eq] at real
  have month (rest : List Char) := @readPart_append 12 _ rest real.1.1.1 real.1.1.2 (by omega)
  have day := @readPart_append 31 _ [] real.1.2 (by omega) (by omega)
  rw [List.append_nil] at day
  have written : date.text.toList = (yearText date.civil.year).toList ++ '-' ::
      ((padZero 2 date.civil.month).toList ++ '-' :: (padZero 2 date.civil.day).toList) := by
    simp [Date.text, Civil.text]
  unfold Date.read
  rw [written, readYear_append low high]
  simp [month, day, readHyphen, named, bind, Except.bind, pure, Except.pure]

theorem toList_yearText_plain {year : Int} (plain : 0 ≤ year ∧ year ≤ 9999) :
    (yearText year).toList = (padZero 4 year.toNat).toList := by
  rw [yearText, if_pos plain]

theorem toList_yearText_signed {year : Int} (outside : ¬ (0 ≤ year ∧ year ≤ 9999)) :
    (yearText year).toList =
      (if year < 0 then '-' else '+') :: (padZero 4 year.natAbs).toList := by
  rw [yearText, if_neg outside]
  split <;> simp

/-- A sign is no digit. -/
theorem padZero_ne_signed {width value : Nat} {year : Int} {rest : List Char} :
    (padZero width value).toList ≠ (if year < 0 then '-' else '+') :: rest := by
  intro same
  have digit := isDigit_of_mem_padZero _ (by rw [same]; exact List.mem_cons_self)
  split at digit <;> cases digit

theorem yearText_injective {year other : Int} (same : (yearText year).toList =
    (yearText other).toList) : year = other := by
  by_cases plain : 0 ≤ year ∧ year ≤ 9999
  · rw [toList_yearText_plain plain] at same
    by_cases alsoPlain : 0 ≤ other ∧ other ≤ 9999
    · rw [toList_yearText_plain alsoPlain] at same
      have := padZero_injective same
      omega
    · rw [toList_yearText_signed alsoPlain] at same
      exact absurd same padZero_ne_signed
  · rw [toList_yearText_signed plain] at same
    by_cases alsoPlain : 0 ≤ other ∧ other ≤ 9999
    · rw [toList_yearText_plain alsoPlain] at same
      exact absurd same.symm padZero_ne_signed
    · rw [toList_yearText_signed alsoPlain, List.cons.injEq] at same
      have := padZero_injective same.2
      have sign := same.1
      split at sign <;> split at sign <;> first | omega | cases sign

theorem Date.toList_text (date : Date) : date.text.toList = (yearText date.civil.year).toList ++
    ('-' :: (padZero 2 date.civil.month).toList ++ '-' :: (padZero 2 date.civil.day).toList) := by
  simp [Date.text, Civil.text]

/-- A month and a day take two digits each. -/
theorem Date.length_parts (date : Date) : (padZero 2 date.civil.month).toList.length = 2 ∧
    (padZero 2 date.civil.day).toList.length = 2 := by
  have days : daysInMonth date.civil.year date.civil.month ≤ 31 := daysInMonth_le _ _
  have real := date.civil_isReal
  simp only [Civil.isReal, Bool.and_eq_true, decide_eq_true_eq] at real
  exact ⟨length_padZero (by omega) (by omega), length_padZero (by omega) (by omega)⟩

/-- Dates are told apart by their texts. -/
theorem Date.text_injective {date other : Date} (same : date.text = other.text) : date = other := by
  have chars := congrArg String.toList same
  rw [date.toList_text, other.toList_text] at chars
  obtain ⟨month, day⟩ := date.length_parts
  obtain ⟨otherMonth, otherDay⟩ := other.length_parts
  -- From the end on, all parts have the same length in both.
  obtain ⟨years, rest⟩ := List.append_inj' chars (by simp [month, day, otherMonth, otherDay])
  obtain ⟨months, days⟩ := List.append_inj rest (by simp [month, otherMonth])
  rw [List.cons.injEq] at months days
  have named : date.civil = other.civil := by
    rw [Civil.mk.injEq]
    exact ⟨yearText_injective years, padZero_injective months.2, padZero_injective days.2⟩
  rw [← date.ofCivil_civil, named, other.ofCivil_civil]

end Calendar

end RecordSync
