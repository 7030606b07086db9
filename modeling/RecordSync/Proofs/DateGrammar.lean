import Mathlib.Data.List.Basic
import RecordSync.Proofs.Decoded

/-! How timestamps and bare dates are written: the texts that are read as an
instant or a date, given by their parts. -/

namespace RecordSync.Calendar

open RecordSync.Text

/-- A run of digits and its number. -/
structure Digits (chars : List Char) (value : Nat) : Prop where
  nonempty : chars ≠ []
  all : ∀ c ∈ chars, c.isDigit = true
  value_eq : digitsValue chars = value

def TwoDigits (chars : List Char) (value : Nat) : Prop := chars.length = 2 ∧ Digits chars value

/-- A fraction of a second, from its point on, in nanoseconds. Digits behind the
ninth count for nothing. -/
inductive Fraction : List Char → Nat → Prop where
  | absent : Fraction [] 0
  | digits {chars : List Char} {value : Nat} (digits : Digits chars value) :
      Fraction ('.' :: chars)
        (digitsValue (chars.take 9) * Nat.pow 10 (9 - (chars.take 9).length))

/-- An offset from universal time, in seconds. The minus may be a hyphen or the
true one. -/
inductive Offset : List Char → Int → Prop where
  | universal {letter : Char} (letter_eq : letter = 'Z' ∨ letter = 'z') : Offset [letter] 0
  | east {hour minute : List Char} {hours minutes : Nat} (h : TwoDigits hour hours)
      (m : TwoDigits minute minutes) (hours_le : hours ≤ 23) (minutes_le : minutes ≤ 59) :
      Offset ('+' :: hour ++ ':' :: minute) (hours * 3600 + minutes * 60 : Nat)
  | west {sign : Char} {hour minute : List Char} {hours minutes : Nat}
      (sign_eq : sign = '-' ∨ sign = Char.ofNat 0x2212) (h : TwoDigits hour hours)
      (m : TwoDigits minute minutes) (hours_le : hours ≤ 23) (minutes_le : minutes ≤ 59) :
      Offset (sign :: hour ++ ':' :: minute) (-(hours * 3600 + minutes * 60 : Nat))

/-- A time of day: its second of the day, and the nanoseconds into that second.
Second sixty is the second before it, made longer. -/
inductive TimeOfDay : List Char → Nat → Nat → Prop where
  | clock {hour minute second fraction : List Char} {hours minutes seconds nano : Nat}
      (h : TwoDigits hour hours) (m : TwoDigits minute minutes) (s : TwoDigits second seconds)
      (f : Fraction fraction nano) (hours_le : hours ≤ 23) (minutes_le : minutes ≤ 59)
      (seconds_le : seconds ≤ 60) :
      TimeOfDay (hour ++ ':' :: minute ++ ':' :: second ++ fraction)
        (hours * 3600 + minutes * 60 + min seconds 59)
        (nano + if seconds = 60 then 1000000000 else 0)

/-- A date with a year of four digits. -/
inductive FullDate : List Char → Date → Prop where
  | named {century years month day : List Char} {c y m d : Nat} (hundreds : TwoDigits century c)
      (ones : TwoDigits years y) (months : TwoDigits month m) (days : TwoDigits day d)
      (real : (Civil.mk (c * 100 + y : Nat) m d).isReal = true) :
      FullDate (century ++ years ++ '-' :: month ++ '-' :: day)
        (.ofCivil ⟨(c * 100 + y : Nat), m, d⟩)

/-- An RFC 3339 timestamp, with `T` or one blank before the time. -/
inductive Timestamp : List Char → Instant → Prop where
  | stamp {dated timed shifted : List Char} {mark : Char} {date : Date} {second nano : Nat}
      {offset : Int} (d : FullDate dated date) (mark_eq : mark = 'T' ∨ mark = 't' ∨ mark = ' ')
      (t : TimeOfDay timed second nano) (o : Offset shifted offset) (bound : nano < 2000000000) :
      Timestamp (dated ++ mark :: timed ++ shifted)
        ⟨date.day * 86400 + second - offset, nano, bound⟩

/-- A year: up to four digits, or a sign and any number of them. -/
inductive Year : List Char → Int → Prop where
  | plain {chars : List Char} {value : Nat} (digits : Digits chars value)
      (short : chars.length ≤ 4) : Year chars value
  | plus {chars : List Char} {value : Nat} (digits : Digits chars value) : Year ('+' :: chars) value
  | minus {chars : List Char} {value : Nat} (digits : Digits chars value) :
      Year ('-' :: chars) (-value)

/-- A bare date. Its parts may follow white space, and may be short. -/
inductive BareDate : List Char → Date → Prop where
  | named {margin year gap month space day : List Char} {y : Int} {m d : Nat}
      (blanks : ∀ c ∈ margin ++ gap ++ space, isBlank c = true) (years : Year year y)
      (months : Digits month m) (month_short : month.length ≤ 2) (days : Digits day d)
      (day_short : day.length ≤ 2) (real : (Civil.mk y m d).isReal = true)
      (early : firstYear ≤ y) (late : y ≤ lastYear) :
      BareDate (margin ++ year ++ '-' :: gap ++ month ++ '-' :: space ++ day) (.ofCivil ⟨y, m, d⟩)

theorem twoDigits?_eq_some_iff {tens ones : Char} {value : Nat} :
    twoDigits? tens ones = some value ↔ TwoDigits [tens, ones] value := by
  have digit (c : Char) : digit? c = if c.isDigit then some (c.toNat - '0'.toNat) else none := rfl
  have folded : digitsValue [tens, ones] = (digit? tens).getD 0 * 10 + (digit? ones).getD 0 := by
    simp [digitsValue]
  constructor
  · intro read
    simp only [twoDigits?, bind, Option.bind_eq_some_iff] at read
    obtain ⟨ten, tensRead, one, onesRead, same⟩ := read
    cases same
    refine ⟨rfl, by simp, ?_, by rw [folded, tensRead, onesRead]; rfl⟩
    simp only [digit, Option.ite_none_right_eq_some] at tensRead onesRead
    simp [tensRead.1, onesRead.1]
  · rintro ⟨_, _, all, rfl⟩
    have first : tens.isDigit = true := all tens (by simp)
    have second : ones.isDigit = true := all ones (by simp)
    simp [twoDigits?, folded, digit, first, second]

theorem TwoDigits.exists_chars {chars : List Char} {value : Nat} (two : TwoDigits chars value) :
    ∃ tens ones, chars = [tens, ones] ∧ tens.isDigit = true ∧ ones.isDigit = true ∧
      twoDigits? tens ones = some value := by
  obtain ⟨tens, ones, rfl⟩ := List.length_eq_two.mp two.1
  exact ⟨tens, ones, rfl, two.2.all tens (by simp), two.2.all ones (by simp),
    twoDigits?_eq_some_iff.mpr two⟩

private theorem offset_of_digits {direction offset : Int} {h k m n : Char}
    (read : ((twoDigits? h k).bind fun hours =>
      (twoDigits? m n).bind fun minutes => if hours ≤ 23 ∧ minutes ≤ 59 then
        some (direction * (hours * 3600 + minutes * 60) : Int) else none) = some offset) :
    ∃ hours minutes, TwoDigits [h, k] hours ∧ TwoDigits [m, n] minutes ∧ hours ≤ 23 ∧
      minutes ≤ 59 ∧ offset = direction * (hours * 3600 + minutes * 60 : Nat) := by
  simp only [Option.bind_eq_some_iff, Option.ite_none_right_eq_some, Option.some.injEq] at read
  obtain ⟨hours, hour, minutes, minute, small, rfl⟩ := read
  exact ⟨hours, minutes, twoDigits?_eq_some_iff.mp hour, twoDigits?_eq_some_iff.mp minute,
    small.1, small.2, by simp⟩

theorem readOffset_eq_some_iff {chars : List Char} {offset : Int} :
    readOffset chars = some offset ↔ Offset chars offset := by
  constructor
  · intro read
    unfold readOffset at read
    split at read
    · cases read
      exact .universal (.inl rfl)
    · cases read
      exact .universal (.inr rfl)
    · rename_i sign h k m n
      split at read
      · rename_i plus
        obtain ⟨hours, minutes, hour, minute, small, less, rfl⟩ := offset_of_digits read
        rw [plus, Int.one_mul]
        exact .east hour minute small less
      · split at read
        · rename_i minus
          obtain ⟨hours, minutes, hour, minute, small, less, rfl⟩ := offset_of_digits read
          rw [Int.neg_one_mul]
          exact .west minus hour minute small less
        · cases read
    · cases read
  · intro offset
    cases offset with
    | universal letter_eq => rcases letter_eq with rfl | rfl <;> rfl
    | east h m hours_le minutes_le =>
      obtain ⟨a, b, rfl, _, _, hour⟩ := h.exists_chars
      obtain ⟨c, d, rfl, _, _, minute⟩ := m.exists_chars
      simp [readOffset, hour, minute, hours_le, minutes_le]
    | west sign_eq h m hours_le minutes_le =>
      obtain ⟨a, b, rfl, _, _, hour⟩ := h.exists_chars
      obtain ⟨c, d, rfl, _, _, minute⟩ := m.exists_chars
      rcases sign_eq with rfl | rfl <;>
        simp [readOffset, hour, minute, hours_le, minutes_le]

theorem Offset.exists_head {chars : List Char} {offset : Int} (written : Offset chars offset) :
    ∃ c rest, chars = c :: rest ∧ c ≠ '.' ∧ c.isDigit = false := by
  cases written with
  | universal letter_eq => rcases letter_eq with rfl | rfl <;> exact ⟨_, _, rfl, by decide, rfl⟩
  | east _ _ _ _ => exact ⟨_, _, rfl, by decide, rfl⟩
  | west sign_eq _ _ _ _ => rcases sign_eq with rfl | rfl <;> exact ⟨_, _, rfl, by decide, rfl⟩

/-- Digits are taken as far as they go. -/
theorem Digits.takeWhile_append {digits rest : List Char} {value : Nat}
    (written : Digits digits value) (stops : ∀ c ∈ rest.head?, c.isDigit = false) :
    (digits ++ rest).takeWhile Char.isDigit = digits := by
  rw [List.takeWhile_append_of_pos written.all]
  cases rest with
  | nil => simp
  | cons c rest => simp [stops c (by simp)]

/-- The run of digits at the start of a text. -/
theorem digits_takeWhile (chars : List Char) (nonempty : chars.takeWhile Char.isDigit ≠ []) :
    Digits (chars.takeWhile Char.isDigit) (digitsValue (chars.takeWhile Char.isDigit)) :=
  ⟨nonempty, List.all_eq_true.mp List.all_takeWhile, rfl⟩

theorem readTail_eq_some_iff {chars : List Char} {nano : Nat} {offset : Int} :
    readTail chars = some (nano, offset) ↔ ∃ fraction shifted, chars = fraction ++ shifted ∧
      Fraction fraction nano ∧ Offset shifted offset := by
  constructor
  · intro read
    unfold readTail at read
    split at read
    · rename_i rest
      simp only [bind, Option.bind_eq_some_iff, readFraction, Option.ite_none_left_eq_some,
        Option.some.injEq, Prod.exists, Prod.mk.injEq, pure] at read
      obtain ⟨_, behind, ⟨nonempty, rfl, rfl⟩, _, shifted, rfl, rfl⟩ := read
      have digits := digits_takeWhile rest (by simpa using nonempty)
      refine ⟨'.' :: rest.takeWhile Char.isDigit, _, ?_, .digits digits,
        readOffset_eq_some_iff.mp shifted⟩
      rw [List.cons_append, List.prefix_iff_eq_append.mp (List.takeWhile_prefix _)]
    · simp only [Option.map_eq_some_iff, Prod.mk.injEq] at read
      obtain ⟨_, shifted, rfl, rfl⟩ := read
      exact ⟨[], _, rfl, .absent, readOffset_eq_some_iff.mp shifted⟩
  · rintro ⟨fraction, shifted, rfl, written, offset⟩
    obtain ⟨c, rest, rfl, noPoint, noDigit⟩ := offset.exists_head
    have read := readOffset_eq_some_iff.mpr offset
    cases written with
    | absent =>
      rw [List.nil_append, readTail]
      · simp [read]
      · rintro _ ⟨⟩
        exact noPoint rfl
    | @digits chars value digits =>
      have run : (chars ++ c :: rest).takeWhile Char.isDigit = chars :=
        digits.takeWhile_append (by simpa using noDigit)
      simp [readTail, readFraction, run, digits.nonempty, read]

/-- A time of day with its offset is read on a date. -/
theorem readTimeOn_eq_some_iff {date : Date} {chars : List Char} {instant : Instant} :
    readTimeOn date chars = some instant ↔ ∃ timed shifted second nano offset bound,
      chars = timed ++ shifted ∧ TimeOfDay timed second nano ∧ Offset shifted offset ∧
        instant = ⟨date.day * 86400 + second - offset, nano, bound⟩ := by
  constructor
  · intro read
    unfold readTimeOn at read
    split at read
    · rename_i h k m n s t rest
      simp only [bind, Option.bind_eq_some_iff, Prod.exists, Option.ite_none_right_eq_some,
        Option.dite_none_right_eq_some, Option.some.injEq] at read
      obtain ⟨hours, hour, minutes, minute, seconds, second, nano, offset, tail, small, bound,
        rfl⟩ := read
      obtain ⟨fraction, shifted, rfl, written, offset⟩ := readTail_eq_some_iff.mp tail
      refine ⟨[h, k] ++ ':' :: [m, n] ++ ':' :: [s, t] ++ fraction, shifted, _, _, _, bound,
        by simp, .clock (twoDigits?_eq_some_iff.mp hour) (twoDigits?_eq_some_iff.mp minute)
          (twoDigits?_eq_some_iff.mp second) written small.1 small.2.1 small.2.2, offset, rfl⟩
    · cases read
  · rintro ⟨timed, shifted, second, nano, offset, bound, rfl, time, shift, rfl⟩
    cases time with
    | @clock hour minute second fraction hours minutes seconds nano h m s f hours_le minutes_le
        seconds_le =>
      obtain ⟨a, b, rfl, _, _, hour⟩ := h.exists_chars
      obtain ⟨c, d, rfl, _, _, minute⟩ := m.exists_chars
      obtain ⟨e, f', rfl, _, _, second⟩ := s.exists_chars
      have tail := readTail_eq_some_iff.mpr ⟨fraction, shifted, rfl, f, shift⟩
      simp [readTimeOn, hour, minute, second, tail, hours_le, minutes_le, seconds_le, bound]

/-- A name of a day within the calendar is a date. -/
theorem Civil.date?_eq_some_iff {civil : Civil} {date : Date} : civil.date? = some date ↔
    civil.isReal = true ∧ firstYear ≤ civil.year ∧ civil.year ≤ lastYear ∧
      date = .ofCivil civil := by
  simp only [Civil.date?, Option.ite_none_right_eq_some, Bool.and_eq_true, decide_eq_true_eq,
    Option.some.injEq, and_assoc, @eq_comm _ date]

theorem Instant.ofTimestamp?_eq_some_iff {text : String} {instant : Instant} :
    Instant.ofTimestamp? text = some instant ↔ Timestamp text.toList instant := by
  unfold ofTimestamp?
  constructor
  · intro read
    split at read
    · rename_i a b c d m n x y mark time written
      simp only [bind, Option.bind_eq_some_iff, Option.ite_none_right_eq_some] at read
      obtain ⟨century, hundreds, years, ones, month, months, day, days, date, named, mark_eq,
        time⟩ := read
      obtain ⟨timed, shifted, second, nano, offset, bound, rfl, clock, shift, rfl⟩ :=
        readTimeOn_eq_some_iff.mp time
      obtain ⟨real, _, _, rfl⟩ := Civil.date?_eq_some_iff.mp named
      have dated := FullDate.named (twoDigits?_eq_some_iff.mp hundreds)
        (twoDigits?_eq_some_iff.mp ones) (twoDigits?_eq_some_iff.mp months)
        (twoDigits?_eq_some_iff.mp days) real
      rw [written]
      exact .stamp dated mark_eq clock shift bound
    · cases read
  · intro written
    generalize text.toList = chars at written ⊢
    cases written with
    | @stamp dated timed shifted mark date second nano offset d mark_eq t o bound =>
      cases d with
      | @named _ _ _ _ c y m d hundreds ones months days real =>
        obtain ⟨_, _, rfl, _, _, hundreds⟩ := hundreds.exists_chars
        obtain ⟨_, _, rfl, _, _, ones⟩ := ones.exists_chars
        obtain ⟨_, _, rfl, _, _, months⟩ := months.exists_chars
        obtain ⟨_, _, rfl, _, _, days⟩ := days.exists_chars
        have centuries := twoDigits_le hundreds
        have decades := twoDigits_le ones
        have named : Civil.date? ⟨(c * 100 + y : Nat), m, d⟩ = some _ :=
          Civil.date?_eq_some_iff.mpr
            ⟨real, by simp only [firstYear]; omega, by simp only [lastYear]; omega, rfl⟩
        have time := (@readTimeOn_eq_some_iff (.ofCivil ⟨(c * 100 + y : Nat), m, d⟩) _ _).mpr
          ⟨timed, shifted, second, nano, offset, bound, rfl, t, o, rfl⟩
        simp only [List.cons_append, List.nil_append, hundreds, ones, months, days, named,
          mark_eq, time, bind, Option.bind_some, ↓reduceIte]

/-- A run of digits that is read is as wide as it may be or the longest there is. -/
theorem readDigits_eq_ok {width : Option Nat} {chars rest : List Char} {value : Nat}
    (read : readDigits width chars = .ok (value, rest)) :
    ∃ digits, chars = digits ++ rest ∧ Digits digits value ∧
      ∀ count ∈ width, digits.length ≤ count := by
  have found {shortened : List Char} (front : shortened <+: chars)
      (read : (if chars.isEmpty then .error .unfinished
        else if (shortened.takeWhile Char.isDigit).isEmpty then .error .invalid
        else if Number.signed64 ≤ digitsValue (shortened.takeWhile Char.isDigit) then
          .error .outOfRange
        else .ok (digitsValue (shortened.takeWhile Char.isDigit),
          chars.drop (shortened.takeWhile Char.isDigit).length) :
        Except DateFault (Nat × List Char)) = .ok (value, rest)) :
      ∃ digits, chars = digits ++ rest ∧ Digits digits value ∧
        digits.length ≤ shortened.length := by
    split at read
    · cases read
    · split at read
      · cases read
      · rename_i nonempty
        split at read
        · cases read
        · cases read
          have run := List.takeWhile_prefix Char.isDigit (l := shortened)
          exact ⟨_, (List.prefix_iff_eq_append.mp (run.trans front)).symm,
            digits_takeWhile _ (by simpa using nonempty), run.length_le⟩
  unfold readDigits at read
  cases width with
  | none =>
    obtain ⟨digits, whole, written, _⟩ := found List.prefix_rfl read
    exact ⟨digits, whole, written, nofun⟩
  | some count =>
    obtain ⟨digits, whole, written, short⟩ := found (List.take_prefix count chars) read
    refine ⟨digits, whole, written, ?_⟩
    rintro _ ⟨⟩
    exact Nat.le_trans short (List.length_take_le count chars)

/-- Digits are read as far as they go. -/
theorem Digits.read (width : Option Nat) {digits rest : List Char} {value : Nat}
    (written : Digits digits value) (short : ∀ count ∈ width, digits.length ≤ count)
    (stops : ∀ c ∈ rest.head?, c.isDigit = false) (small : value < Number.signed64) :
    readDigits width (digits ++ rest) = .ok (value, rest) := by
  have fits : ¬ Number.signed64 ≤ value := Nat.not_le.mpr small
  cases width with
  | none =>
    simp [readDigits, written.takeWhile_append stops, written.nonempty, written.value_eq, fits]
  | some count =>
    have run : ((digits ++ rest).take count).takeWhile Char.isDigit = digits := by
      rw [List.take_append, List.take_of_length_le (short count rfl)]
      apply written.takeWhile_append
      intro c member
      rw [List.head?_take] at member
      split at member
      · cases member
      · exact stops c member
    simp only [readDigits, run]
    simp [written.nonempty, written.value_eq, fits]

/-- White space in front is passed over, and what stands behind it stays. -/
theorem dropWhile_isBlank {blanks rest : List Char} (all : ∀ c ∈ blanks, isBlank c = true)
    (stops : ∀ c ∈ rest.head?, isBlank c = false) :
    (blanks ++ rest).dropWhile isBlank = rest := by
  rw [List.dropWhile_append_of_pos all]
  cases rest with
  | nil => rfl
  | cons c rest => simp [stops c (by simp)]

theorem Digits.head {digits : List Char} {value : Nat} (written : Digits digits value) :
    ∃ c rest, digits = c :: rest ∧ c.isDigit = true := by
  cases digits with
  | nil => exact absurd rfl written.nonempty
  | cons c rest => exact ⟨c, rest, rfl, written.all c (by simp)⟩

/-- Blanks in front of what a reader took, and the rest. -/
theorem blanks_takeWhile (chars : List Char) :
    (∀ c ∈ chars.takeWhile isBlank, isBlank c = true) ∧
      chars = chars.takeWhile isBlank ++ chars.dropWhile isBlank :=
  ⟨List.all_eq_true.mp List.all_takeWhile, List.takeWhile_append_dropWhile.symm⟩

private theorem unsigned_eq_ok {width : Option Nat} {digits rest : List Char} {year : Int}
    (direction : Nat → Int)
    (read : ((readDigits width digits).map fun (value, rest) => (direction value, rest)) >>=
      (fun (year, rest) => if -(Number.signed32 : Int) ≤ year ∧ year < Number.signed32 then
        pure (year, rest) else throw .outOfRange) = .ok (year, rest)) :
    ∃ value run, digits = run ++ rest ∧ Digits run value ∧
      (∀ count ∈ width, run.length ≤ count) ∧ year = direction value := by
  obtain ⟨⟨_, _⟩, found, read⟩ := bind_eq_ok_iff.mp read
  obtain ⟨⟨value, _⟩, found, same⟩ := map_eq_ok_iff.mp found
  cases same
  dsimp only at read
  split at read
  · cases read
    obtain ⟨run, split, written, short⟩ := readDigits_eq_ok found
    exact ⟨value, run, split, written, short, rfl⟩
  · cases read

theorem readYear_eq_ok {chars rest : List Char} {year : Int}
    (read : readYear chars = .ok (year, rest)) :
    ∃ margin text, chars = margin ++ text ++ rest ∧ (∀ c ∈ margin, isBlank c = true) ∧
      Year text year := by
  obtain ⟨blanks, whole⟩ := blanks_takeWhile chars
  generalize chars.takeWhile isBlank = margin at blanks whole
  unfold readYear at read
  split at read
  · rename_i digits minus
    obtain ⟨value, run, rfl, written, _, rfl⟩ := unsigned_eq_ok (fun value => -value) read
    exact ⟨margin, '-' :: run, by rw [whole, minus]; simp, blanks, .minus written⟩
  · rename_i digits plus
    obtain ⟨value, run, rfl, written, _, rfl⟩ := unsigned_eq_ok (fun value => value) read
    exact ⟨margin, '+' :: run, by rw [whole, plus]; simp, blanks, .plus written⟩
  · obtain ⟨value, run, split, written, short, rfl⟩ := unsigned_eq_ok (fun value => value) read
    exact ⟨margin, run, by rw [whole, split]; simp, blanks, .plain written (short 4 rfl)⟩

/-- A year is read up to the hyphen behind it. -/
theorem Year.read {margin text : List Char} (rest : List Char) {year : Int}
    (blanks : ∀ c ∈ margin, isBlank c = true) (written : Year text year)
    (early : firstYear ≤ year) (late : year ≤ lastYear) :
    readYear (margin ++ (text ++ '-' :: rest)) = .ok (year, '-' :: rest) := by
  have within : -(Number.signed32 : Int) ≤ year ∧ year < Number.signed32 := by
    simp only [firstYear, lastYear, Number.signed32] at *
    omega
  have small {value : Nat} (size : value = year ∨ -(value : Int) = year) :
      value < Number.signed64 := by
    simp only [firstYear, lastYear, Number.signed64] at *
    omega
  have stops : ∀ c ∈ ('-' :: rest).head?, c.isDigit = false := by simp
  have start : ∀ c ∈ (text ++ '-' :: rest).head?, isBlank c = false := by
    cases written with
    | plain digits _ =>
      obtain ⟨c, others, rfl, digit⟩ := digits.head
      simpa using isBlank_of_isDigit digit
    | plus _ => simp; decide
    | minus _ => simp; decide
  unfold readYear
  rw [dropWhile_isBlank blanks start]
  cases written with
  | @plain _ value digits short =>
    have read := digits.read (some 4) (by simpa using short) stops (small (.inl rfl))
    obtain ⟨c, others, rfl, digit⟩ := digits.head
    rw [List.cons_append] at read ⊢
    split
    · rename_i minus
      cases minus
      cases digit
    · rename_i plus
      cases plus
      cases digit
    · simp [read, within, Except.map, bind, Except.bind, pure, Except.pure]
  | @plus _ value digits =>
    have read := digits.read none (by simp) stops (small (.inl rfl))
    simp [read, within, Except.map, bind, Except.bind, pure, Except.pure]
  | @minus _ value digits =>
    have read := digits.read none (by simp) stops (small (.inr rfl))
    simp [read, within, Except.map, bind, Except.bind, pure, Except.pure]

theorem readPart_eq_ok {bound value : Nat} {chars rest : List Char}
    (read : readPart bound chars = .ok (value, rest)) :
    ∃ gap text, chars = gap ++ text ++ rest ∧ (∀ c ∈ gap, isBlank c = true) ∧
      Digits text value ∧ text.length ≤ 2 := by
  obtain ⟨blanks, whole⟩ := blanks_takeWhile chars
  generalize chars.takeWhile isBlank = gap at blanks whole
  simp only [readPart, bind_eq_ok_iff] at read
  obtain ⟨⟨_, _⟩, found, read⟩ := read
  split at read
  · cases read
    obtain ⟨run, split, written, short⟩ := readDigits_eq_ok found
    exact ⟨gap, run, by rw [whole, split]; simp, blanks, written, short 2 rfl⟩
  · cases read

/-- A month or a day is read up to what is no digit. -/
theorem Digits.readPart (bound : Nat) {value : Nat} {gap text : List Char} (rest : List Char)
    (blanks : ∀ c ∈ gap, isBlank c = true) (written : Digits text value)
    (short : text.length ≤ 2) (stops : ∀ c ∈ rest.head?, c.isDigit = false) (low : 1 ≤ value)
    (high : value ≤ bound) (small : bound < 100) :
    readPart bound (gap ++ (text ++ rest)) = .ok (value, rest) := by
  have start : ∀ c ∈ (text ++ rest).head?, isBlank c = false := by
    obtain ⟨c, others, rfl, digit⟩ := written.head
    simpa using isBlank_of_isDigit digit
  have read := written.read (some 2) (by simpa using short) stops
    (by rw [Number.signed64]; omega)
  unfold Calendar.readPart
  rw [dropWhile_isBlank blanks start, read]
  simp [low, high, bind, Except.bind, pure, Except.pure]

theorem readHyphen_eq_ok_iff {chars rest : List Char} :
    readHyphen chars = .ok rest ↔ chars = '-' :: rest := by
  unfold readHyphen
  split <;> simp_all

theorem Date.read_eq_ok {text : String} {date : Date} (dated : Date.read text = .ok date) :
    BareDate text.toList date := by
  simp only [Date.read, bind_eq_ok_iff] at dated
  obtain ⟨⟨year, _⟩, yearRead, _, hyphen, ⟨month, _⟩, monthRead, _, other, ⟨day, rest⟩, dayRead,
    dated⟩ := dated
  obtain ⟨margin, years, whole, margins, yearWritten⟩ := readYear_eq_ok yearRead
  cases readHyphen_eq_ok_iff.mp hyphen
  obtain ⟨gap, months, rfl, gaps, monthWritten, monthShort⟩ := readPart_eq_ok monthRead
  cases readHyphen_eq_ok_iff.mp other
  obtain ⟨space, days, rfl, spaces, dayWritten, dayShort⟩ := readPart_eq_ok dayRead
  split at dated
  · cases dated
  · rename_i ended
    have ended : rest = [] := by simpa using ended
    subst ended
    dsimp only at dated
    split at dated
    · rename_i named
      cases dated
      obtain ⟨real, early, late, rfl⟩ := Civil.date?_eq_some_iff.mp named
      have written := @BareDate.named margin _ gap _ space _ _ _ _
        (by simp only [List.mem_append, or_imp, forall_and]; exact ⟨⟨margins, gaps⟩, spaces⟩)
        yearWritten monthWritten monthShort dayWritten dayShort real early late
      rw [whole]
      simpa using written
    · cases dated

theorem BareDate.read {text : String} {date : Date} (written : BareDate text.toList date) :
    Date.read text = .ok date := by
  generalize whole : text.toList = chars at written
  cases written with
  | @named margin year gap month space day y m d blanks years months month_short days day_short
      real early late =>
    simp only [List.mem_append, or_imp, forall_and] at blanks
    have named : Civil.date? ⟨y, m, d⟩ = some (.ofCivil ⟨y, m, d⟩) :=
      Civil.date?_eq_some_iff.mpr ⟨real, early, late, rfl⟩
    have most := daysInMonth_le y m
    simp only [Civil.isReal, Bool.and_eq_true, decide_eq_true_eq] at real
    have yearRead := years.read (gap ++ (month ++ '-' :: (space ++ day))) blanks.1.1 early late
    have monthRead := months.readPart 12 ('-' :: (space ++ day)) blanks.1.2 month_short (by simp)
      real.1.1.1 real.1.1.2 (by omega)
    have dayRead := days.readPart 31 [] blanks.2 day_short (by simp) real.1.2 (by omega) (by omega)
    rw [List.append_nil] at dayRead
    simp only [List.append_assoc, List.cons_append] at whole
    simp [Date.read, whole, yearRead, readHyphen, monthRead, dayRead, named, bind, Except.bind,
      pure, Except.pure]

theorem Date.ofText?_eq_some_iff {text : String} {date : Date} :
    Date.ofText? text = some date ↔ BareDate text.toList date := by
  unfold Date.ofText?
  constructor
  · intro read
    split at read
    · rename_i found dated
      cases read
      exact Date.read_eq_ok dated
    · cases read
  · intro written
    rw [written.read]

/-- A digit is no colon. -/
theorem Digits.colon_not_mem {chars : List Char} {value : Nat} (written : Digits chars value) :
    ':' ∉ chars :=
  fun member => absurd (written.all ':' member) (by decide)

theorem BareDate.colon_not_mem {chars : List Char} {date : Date} (written : BareDate chars date) :
    ':' ∉ chars := by
  cases written with
  | @named margin year gap month space day y m d blanks years months _ days _ _ _ _ =>
    have spaceless : ':' ∉ margin ++ gap ++ space := fun member =>
      absurd (blanks ':' member) (by decide)
    have yearless : ':' ∉ year := by
      cases years with
      | plain digits _ => exact digits.colon_not_mem
      | plus digits => simpa using digits.colon_not_mem
      | minus digits => simpa using digits.colon_not_mem
    simp only [List.mem_append, not_or] at spaceless
    simp [spaceless, yearless, months.colon_not_mem, days.colon_not_mem]

theorem BareDate.hyphen_mem {chars : List Char} {date : Date} (written : BareDate chars date) :
    '-' ∈ chars := by
  cases written with
  | named _ _ _ _ _ _ _ _ _ => simp

theorem Timestamp.colon_mem {chars : List Char} {instant : Instant}
    (written : Timestamp chars instant) : ':' ∈ chars := by
  cases written with
  | stamp _ _ time _ _ =>
    cases time with
    | clock _ _ _ _ _ _ _ => simp

/-- A text is not both a timestamp and a bare date. -/
theorem BareDate.ofTimestamp?_eq_none {text : String} {date : Date}
    (written : BareDate text.toList date) : Instant.ofTimestamp? text = none := by
  cases read : Instant.ofTimestamp? text with
  | none => rfl
  | some instant =>
    exact absurd (Instant.ofTimestamp?_eq_some_iff.mp read).colon_mem written.colon_not_mem

end RecordSync.Calendar
