import Mathlib.Data.List.TakeWhile
import Mathlib.Tactic.IntervalCases
import RecordSync.Json.Text
import RecordSync.Json.Token

/-! The text of a JSON value stands for that value alone. Each part of the text
shows where it ends, so what is written can be taken apart again: a text at its
closing quote, an array or object at its bracket, a whole number at the first
character that is no digit. -/

namespace RecordSync.Json

open RecordSync.Text RecordSync.Number

/-- What stands behind a value does not continue a numeral. -/
def Breaks (rest : List Char) : Prop := ∀ c ∈ rest.head?, c.isDigit = false

theorem breaks_nil : Breaks [] := nofun

theorem breaks_cons {c : Char} {rest : List Char} (other : c.isDigit = false) :
    Breaks (c :: rest) := by
  rintro _ ⟨⟩
  exact other

section Numerals

variable {digits others rest more : List Char}

theorem takeWhile_digits (all : ∀ c ∈ digits, c.isDigit = true) (breaks : Breaks rest) :
    (digits ++ rest).takeWhile Char.isDigit = digits := by
  rw [List.takeWhile_append_of_pos all]
  cases rest with
  | nil => simp
  | cons c rest => simp [breaks c rfl]

/-- Two runs of digits with no digit behind them are one if the texts are. -/
theorem digits_cancel (all : ∀ c ∈ digits, c.isDigit = true)
    (alsoAll : ∀ c ∈ others, c.isDigit = true) (breaks : Breaks rest) (ends : Breaks more)
    (same : digits ++ rest = others ++ more) : digits = others ∧ rest = more := by
  have runs : digits = others := by
    rw [← takeWhile_digits all breaks, same, takeWhile_digits alsoAll ends]
  subst runs
  exact ⟨rfl, List.append_cancel_left same⟩

theorem isDigit_of_mem_toDigits {value : Nat} : ∀ c ∈ Nat.toDigits 10 value, c.isDigit = true :=
  fun _ member => Nat.isDigit_of_mem_toDigits (by omega) (by omega) member

/-- A whole number that is written shows where it ends. -/
theorem natural_cancel {left right : Nat} (breaks : Breaks rest) (ends : Breaks more)
    (same : Nat.toDigits 10 left ++ rest = Nat.toDigits 10 right ++ more) :
    left = right ∧ rest = more := by
  obtain ⟨digits, others⟩ :=
    digits_cancel isDigit_of_mem_toDigits isDigit_of_mem_toDigits breaks ends same
  have value := congrArg (Nat.ofDigitChars 10 · 0) digits
  simp only [Nat.ofDigitChars_ten_toDigits] at value
  exact ⟨value, others⟩

theorem toList_toString_ofNat (value : Nat) :
    (toString (Int.ofNat value)).toList = Nat.toDigits 10 value := by
  simp [toString, Int.repr, Nat.repr]

theorem toList_toString_negSucc (value : Nat) :
    (toString (Int.negSucc value)).toList = '-' :: Nat.toDigits 10 (value + 1) := by
  simp [toString, Int.repr, Nat.repr]

/-- No digit stands for a sign. -/
theorem toDigits_append_ne_minus {value : Nat} {rest more : List Char} :
    Nat.toDigits 10 value ++ rest ≠ '-' :: more := by
  intro same
  cases written : Nat.toDigits 10 value with
  | nil => exact Nat.toDigits_ne_nil written
  | cons c others =>
    have digit : c.isDigit = true := @isDigit_of_mem_toDigits value c (by simp [written])
    rw [written, List.cons_append] at same
    injection same with sign
    subst sign
    cases digit

theorem integer_cancel {left right : Int} (breaks : Breaks rest) (ends : Breaks more)
    (same : (toString left).toList ++ rest = (toString right).toList ++ more) :
    left = right ∧ rest = more := by
  cases left with
  | ofNat left =>
    rw [toList_toString_ofNat] at same
    cases right with
    | ofNat right =>
      rw [toList_toString_ofNat] at same
      obtain ⟨rfl, others⟩ := natural_cancel breaks ends same
      exact ⟨rfl, others⟩
    | negSucc right =>
      rw [toList_toString_negSucc] at same
      exact absurd same toDigits_append_ne_minus
  | negSucc left =>
    rw [toList_toString_negSucc] at same
    cases right with
    | ofNat right =>
      rw [toList_toString_ofNat] at same
      exact absurd same.symm toDigits_append_ne_minus
    | negSucc right =>
      rw [toList_toString_negSucc] at same
      injection same with _ same
      obtain ⟨value, others⟩ := natural_cancel breaks ends same
      cases value
      exact ⟨rfl, others⟩

end Numerals

def readEscaped : List Char → Option (Char × List Char)
  | '\\' :: 'u' :: _ :: _ :: high :: low :: rest => do
    let high ← hexDigit? high
    let low ← hexDigit? low
    return (Char.ofNat (high * 16 + low), rest)
  | '\\' :: c :: rest => (escaped? c).map (·, rest)
  | c :: rest => some (c, rest)
  | [] => none

theorem hexDigit?_hexChar {value : Nat} (digit : value < 16) :
    hexDigit? (hexChar value) = some value := by
  interval_cases value <;> rfl

theorem readEscaped_escapeChar (c : Char) (rest : List Char) :
    readEscaped (escapeChar c ++ rest) = some (c, rest) := by
  unfold escapeChar
  split
  · subst_vars; rfl
  split
  · subst_vars; rfl
  split
  · subst_vars; rfl
  split
  · subst_vars; rfl
  split
  · subst_vars; rfl
  split
  · subst_vars; rfl
  split
  · subst_vars; rfl
  split
  · rename_i small
    have high := @hexDigit?_hexChar (c.toNat / 16) (by omega)
    have low := @hexDigit?_hexChar (c.toNat % 16) (by omega)
    simp [readEscaped, high, low, Nat.div_add_mod']
  · rw [List.singleton_append, readEscaped.eq_def]
    split <;> simp_all

/-- The quote that closes a text is no part of a character inside. -/
theorem escapeChar_append_ne_quote {c : Char} {rest more : List Char} :
    escapeChar c ++ rest ≠ '"' :: more := by
  intro same
  unfold escapeChar at same
  repeat' split at same
  all_goals simp_all

/-- What stands in quotes shows where it ends. -/
theorem escaped_cancel {left right rest more : List Char}
    (same : left.flatMap escapeChar ++ '"' :: rest = right.flatMap escapeChar ++ '"' :: more) :
    left = right ∧ rest = more := by
  induction left generalizing right with
  | nil =>
    cases right with
    | nil =>
      injection same with _ others
      exact ⟨rfl, others⟩
    | cons c right =>
      rw [List.flatMap_cons, List.append_assoc] at same
      exact absurd same.symm escapeChar_append_ne_quote
  | cons c left ih =>
    rw [List.flatMap_cons, List.append_assoc] at same
    cases right with
    | nil => exact absurd same escapeChar_append_ne_quote
    | cons d right =>
      rw [List.flatMap_cons, List.append_assoc] at same
      have read := congrArg readEscaped same
      rw [readEscaped_escapeChar, readEscaped_escapeChar] at read
      injection read with read
      injection read with first others
      obtain ⟨rfl, behind⟩ := ih others
      exact ⟨by rw [first], behind⟩

theorem quoteChars_append (text : String) (rest : List Char) :
    quoteChars text ++ rest = '"' :: (text.toList.flatMap escapeChar ++ '"' :: rest) := by
  simp [quoteChars]

theorem quoteChars_cancel {left right : String} {rest more : List Char}
    (same : quoteChars left ++ rest = quoteChars right ++ more) : left = right ∧ rest = more := by
  rw [quoteChars_append, quoteChars_append] at same
  injection same with _ inside
  obtain ⟨texts, others⟩ := escaped_cancel inside
  exact ⟨String.toList_injective texts, others⟩

/-- Values whose numbers are whole. -/
inductive Value.Whole : Value → Prop where
  | null : Whole .null
  | bool (value : Bool) : Whole (.bool value)
  | integer (value : Int) : Whole (.number (.integer value))
  | text (value : String) : Whole (.text value)
  | array {members : List Value} (all : ∀ value ∈ members, Whole value) : Whole (.array members)
  | object {members : List (String × Value)} (all : ∀ member ∈ members, Whole member.2) :
      Whole (.object members)

/-- The kind of a value by the first character of its text. -/
def kindAt (c : Char) : String :=
  if c = 'n' then "null"
  else if c = 't' ∨ c = 'f' then "boolean"
  else if c = '"' then "string"
  else if c = '[' then "array"
  else if c = '\x7b' then "object"
  else if c = '-' ∨ c.isDigit then "number"
  else "none"

theorem kindAt_of_isDigit {c : Char} (digit : c.isDigit = true) : kindAt c = "number" := by
  have apart {other : Char} (outside : other.isDigit = false) : c ≠ other := by
    rintro rfl
    rw [digit] at outside
    cases outside
  simp [kindAt, digit, @apart 'n' rfl, @apart 't' rfl, @apart 'f' rfl, @apart '"' rfl,
    @apart '[' rfl, @apart '\x7b' rfl]

theorem Value.Whole.chars_eq_cons {value : Value} (whole : value.Whole) :
    ∃ c rest, value.chars = c :: rest ∧ kindAt c = value.kind := by
  cases whole with
  | null => exact ⟨_, _, rfl, rfl⟩
  | bool value => cases value <;> exact ⟨_, _, rfl, rfl⟩
  | integer value =>
    change ∃ c rest, (toString value).toList = c :: rest ∧ kindAt c = "number"
    cases value with
    | ofNat value =>
      rw [toList_toString_ofNat]
      cases written : Nat.toDigits 10 value with
      | nil => exact absurd written Nat.toDigits_ne_nil
      | cons c rest =>
        have digit := @isDigit_of_mem_toDigits value c (by simp [written])
        exact ⟨c, rest, rfl, kindAt_of_isDigit digit⟩
    | negSucc value =>
      rw [toList_toString_negSucc]
      exact ⟨_, _, rfl, rfl⟩
  | text value => exact ⟨_, _, rfl, rfl⟩
  | array _ => exact ⟨_, _, rfl, rfl⟩
  | object _ => exact ⟨_, _, rfl, rfl⟩

/-- The text of a value shows which value it is and where it ends. -/
def Value.Cancels (left : Value) : Prop := ∀ {right : Value} {rest more : List Char}, right.Whole →
  Breaks rest → Breaks more → left.chars ++ rest = right.chars ++ more → left = right ∧ rest = more

/-- Values with one text are of one kind. -/
theorem Value.Whole.kind_eq {left right : Value} (whole : left.Whole) (alsoWhole : right.Whole)
    {rest more : List Char} (same : left.chars ++ rest = right.chars ++ more) :
    left.kind = right.kind := by
  obtain ⟨c, _, written, kind⟩ := whole.chars_eq_cons
  obtain ⟨d, _, alsoWritten, alsoKind⟩ := alsoWhole.chars_eq_cons
  rw [written, alsoWritten] at same
  injection same with first
  rw [← kind, ← alsoKind, first]

section Members

variable {α : Type} {chars : List α → List Char} {rest more : List Char} {close : Char}

def continued (chars : List α → List Char) : List α → List Char
  | [] => []
  | members => ',' :: chars members

theorem breaks_continued (ends : close.isDigit = false) (members : List α) (rest : List Char) :
    Breaks (continued chars members ++ close :: rest) := by
  cases members with
  | nil => exact breaks_cons ends
  | cons _ _ => exact breaks_cons rfl

theorem continued_cancel {left right : List α} (ends : close ≠ ',')
    (cancel : chars left ++ close :: rest = chars right ++ close :: more →
      left = right ∧ rest = more)
    (same : continued chars left ++ close :: rest = continued chars right ++ close :: more) :
    left = right ∧ rest = more := by
  cases left with
  | nil =>
    cases right with
    | nil =>
      injection same with _ others
      exact ⟨rfl, others⟩
    | cons _ _ =>
      injection same with comma
      exact absurd comma ends
  | cons _ _ =>
    cases right with
    | nil =>
      injection same with comma
      exact absurd comma.symm ends
    | cons _ _ =>
      injection same with _ members
      exact cancel members

theorem arrayChars_cons (value : Value) (members : List Value) :
    arrayChars (value :: members) = value.chars ++ continued arrayChars members := by
  cases members <;> simp [arrayChars, continued]

theorem objectChars_cons (key : String) (value : Value) (members : List (String × Value)) :
    objectChars ((key, value) :: members) =
      quoteChars key ++ ':' :: (value.chars ++ continued objectChars members) := by
  cases members <;> simp [objectChars, continued]

theorem arrayChars_cancel {left right : List Value} (cancels : ∀ value ∈ left, value.Cancels)
    (whole : ∀ value ∈ left, value.Whole) (alsoWhole : ∀ value ∈ right, value.Whole)
    (same : arrayChars left ++ ']' :: rest = arrayChars right ++ ']' :: more) :
    left = right ∧ rest = more := by
  -- The bracket that closes an array opens no value.
  have apart {value : Value} {members : List Value} {others behind : List Char}
      (whole : value.Whole) : arrayChars (value :: members) ++ others ≠ ']' :: behind := by
    intro same
    obtain ⟨c, _, written, kind⟩ := whole.chars_eq_cons
    rw [arrayChars_cons, written] at same
    injection same with first
    subst first
    cases value <;> simp [kindAt, Value.kind] at kind
  induction left generalizing right with
  | nil =>
    cases right with
    | nil =>
      injection same with _ others
      exact ⟨rfl, others⟩
    | cons value right => exact absurd same.symm (apart (alsoWhole value List.mem_cons_self))
  | cons value left ih =>
    cases right with
    | nil => exact absurd same (apart (whole value List.mem_cons_self))
    | cons other right =>
      obtain ⟨first, cancelsRest⟩ := List.forall_mem_cons.mp cancels
      obtain ⟨_, wholeRest⟩ := List.forall_mem_cons.mp whole
      obtain ⟨otherWhole, rightWhole⟩ := List.forall_mem_cons.mp alsoWhole
      rw [arrayChars_cons, arrayChars_cons, List.append_assoc, List.append_assoc] at same
      obtain ⟨rfl, others⟩ := first otherWhole (breaks_continued rfl _ _)
        (breaks_continued rfl _ _) same
      obtain ⟨rfl, behind⟩ := continued_cancel (by decide) (ih cancelsRest wholeRest rightWhole)
        others
      exact ⟨rfl, behind⟩

theorem objectChars_cancel {left right : List (String × Value)}
    (cancels : ∀ member ∈ left, member.2.Cancels) (whole : ∀ member ∈ right, member.2.Whole)
    (same : objectChars left ++ '\x7d' :: rest = objectChars right ++ '\x7d' :: more) :
    left = right ∧ rest = more := by
  induction left generalizing right with
  | nil =>
    cases right with
    | nil =>
      injection same with _ others
      exact ⟨rfl, others⟩
    | cons member right =>
      rw [objectChars_cons, List.append_assoc, quoteChars_append] at same
      injection same with quote
      cases quote
  | cons member left ih =>
    obtain ⟨key, value⟩ := member
    cases right with
    | nil =>
      rw [objectChars_cons, List.append_assoc, quoteChars_append] at same
      injection same with quote
      cases quote
    | cons member right =>
      obtain ⟨other, word⟩ := member
      obtain ⟨first, cancelsRest⟩ := List.forall_mem_cons.mp cancels
      obtain ⟨wordWhole, rightWhole⟩ := List.forall_mem_cons.mp whole
      simp only [objectChars_cons, List.append_assoc, List.cons_append] at same
      obtain ⟨rfl, afterKey⟩ := quoteChars_cancel same
      injection afterKey with _ values
      obtain ⟨rfl, others⟩ := first wordWhole (breaks_continued rfl _ _)
        (breaks_continued rfl _ _) values
      obtain ⟨rfl, behind⟩ := continued_cancel (by decide) (ih cancelsRest rightWhole) others
      exact ⟨rfl, behind⟩

end Members

/-- The text of a value with whole numbers can be taken apart again. -/
theorem Value.Whole.cancels {left : Value} (whole : left.Whole) : left.Cancels := by
  induction whole with
  | null =>
    intro right rest more alsoWhole breaks ends same
    have kind := Value.Whole.null.kind_eq alsoWhole same
    cases alsoWhole with
    | null => exact ⟨rfl, List.append_cancel_left same⟩
    | _ => simp [Value.kind] at kind
  | bool value =>
    intro right rest more alsoWhole breaks ends same
    have kind := (Value.Whole.bool value).kind_eq alsoWhole same
    cases alsoWhole with
    | bool other =>
      cases value <;> cases other
      · exact ⟨rfl, List.append_cancel_left same⟩
      · injection same with first
        cases first
      · injection same with first
        cases first
      · exact ⟨rfl, List.append_cancel_left same⟩
    | _ => simp [Value.kind] at kind
  | integer value =>
    intro right rest more alsoWhole breaks ends same
    have kind := (Value.Whole.integer value).kind_eq alsoWhole same
    cases alsoWhole with
    | integer other =>
      obtain ⟨rfl, others⟩ := integer_cancel breaks ends same
      exact ⟨rfl, others⟩
    | _ => simp [Value.kind] at kind
  | text value =>
    intro right rest more alsoWhole breaks ends same
    have kind := (Value.Whole.text value).kind_eq alsoWhole same
    cases alsoWhole with
    | text other =>
      obtain ⟨rfl, others⟩ := quoteChars_cancel same
      exact ⟨rfl, others⟩
    | _ => simp [Value.kind] at kind
  | @array members all ih =>
    intro right rest more alsoWhole breaks ends same
    have kind := (Value.Whole.array all).kind_eq alsoWhole same
    cases alsoWhole with
    | array others =>
      simp only [Value.chars, List.cons_append, List.append_assoc] at same
      injection same with _ same
      obtain ⟨rfl, behind⟩ := arrayChars_cancel (fun _ => ih _) all others same
      exact ⟨rfl, behind⟩
    | _ => simp [Value.kind] at kind
  | @object members all ih =>
    intro right rest more alsoWhole breaks ends same
    have kind := (Value.Whole.object all).kind_eq alsoWhole same
    cases alsoWhole with
    | object others =>
      simp only [Value.chars, List.cons_append, List.append_assoc] at same
      injection same with _ same
      obtain ⟨rfl, behind⟩ := objectChars_cancel (fun _ => ih _) others same
      exact ⟨rfl, behind⟩
    | _ => simp [Value.kind] at kind

/-- Values with whole numbers are told apart by their texts. -/
theorem Value.Whole.render_injective {left right : Value} (whole : left.Whole)
    (alsoWhole : right.Whole) (same : left.render = right.render) : left = right := by
  have chars := String.ofList_injective same
  exact (whole.cancels alsoWhole breaks_nil breaks_nil (by rw [chars])).1

end RecordSync.Json
