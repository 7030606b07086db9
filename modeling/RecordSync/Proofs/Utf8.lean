import Mathlib.Data.List.Basic
import RecordSync.Proofs.Decoded
import RecordSync.Text.Utf8

/-! UTF-8 read back: the bytes that are read as a text are the bytes of that text,
and any other bytes are refused. -/

namespace RecordSync.Text.Utf8

/-- The bits of an open character with those of the bytes that follow. -/
def gathered (bits : Nat) (tail : List UInt8) : Nat :=
  tail.foldl (fun bits byte => bits * 0x40 + byte.toNat % 0x40) bits

/-- Bytes that complete an open character: its next byte lies in a range of its
own, the others are any that continue a character. -/
def Completes (low high : Nat) : List UInt8 → Prop
  | [] => False
  | byte :: rest => (low ≤ byte.toNat ∧ byte.toNat ≤ high) ∧
      ∀ other ∈ rest, 0x80 ≤ other.toNat ∧ other.toNat ≤ 0xBF

theorem Completes.rest {low high : Nat} {byte next : UInt8} {rest : List UInt8}
    (completes : Completes low high (byte :: next :: rest)) :
    Completes 0x80 0xBF (next :: rest) :=
  ⟨completes.2 next List.mem_cons_self, fun other member =>
    completes.2 other (List.mem_cons_of_mem _ member)⟩

/-- Bytes that complete an open character are read as that character. -/
theorem pieces_of_completes {low high : Nat} {tail : List UInt8}
    (completes : Completes low high tail) (bits taken : Nat) (rest : List UInt8) :
    pieces (.inside bits taken tail.length low high) (tail ++ rest) =
      .char (Char.ofNat (gathered bits tail)) :: pieces .start rest := by
  induction tail generalizing low high bits taken with
  | nil => exact completes.elim
  | cons byte after ih =>
    rw [List.cons_append, pieces, step]
    simp only [completes.1, and_self, ↓reduceIte, List.length_cons]
    cases after with
    | nil => simp [gathered]
    | cons next others =>
      have open_ : (next :: others).length + 1 ≠ 1 := by simp
      simp only [open_, ↓reduceIte, Nat.add_sub_cancel, List.nil_append]
      exact ih completes.rest _ _

/-- An open character that is read was completed. -/
theorem completes_of_strict {owed : Nat} (some_ : 0 < owed) {bits taken low high offset : Nat}
    {bytes : List UInt8} {chars : List Char}
    (read : strict offset (pieces (.inside bits taken owed low high) bytes) = .ok chars) :
    ∃ tail rest others later, bytes = tail ++ rest ∧ tail.length = owed ∧
      Completes low high tail ∧ chars = Char.ofNat (gathered bits tail) :: others ∧
      strict later (pieces .start rest) = .ok others := by
  induction owed generalizing bits taken low high bytes with
  | zero => omega
  | succ owed ih =>
    cases bytes with
    | nil => cases read
    | cons byte after =>
      rw [pieces, step] at read
      by_cases inside : low ≤ byte.toNat ∧ byte.toNat ≤ high
      · simp only [inside, and_self, ↓reduceIte] at read
        by_cases last : owed = 0
        · subst last
          simp only [Nat.zero_add, ↓reduceIte, List.singleton_append, strict] at read
          obtain ⟨others, readRest, rfl⟩ := map_eq_ok_iff.mp read
          exact ⟨[byte], after, others, _, rfl, rfl, ⟨inside, nofun⟩, rfl, readRest⟩
        · have more : owed + 1 ≠ 1 := by omega
          simp only [more, ↓reduceIte, Nat.add_sub_cancel, List.nil_append] at read
          obtain ⟨tail, rest, others, later, rfl, length, completes, same, readRest⟩ :=
            ih (by omega) read
          refine ⟨byte :: tail, rest, others, later, rfl, by simp [length], ?_, same, readRest⟩
          cases tail with
          | nil => exact completes.elim
          | cons next more =>
            refine ⟨inside, ?_⟩
            intro other member
            rcases List.mem_cons.mp member with rfl | there
            · exact completes.1
            · exact completes.2 other there
      · simp only [inside, ↓reduceIte, List.cons_append, strict] at read
        cases read

/-- The bytes of the character with a code. -/
theorem utf8EncodeChar_ofNat {code : Nat} (valid : code.isValidChar) :
    String.utf8EncodeChar (Char.ofNat code) =
      if code ≤ 0x7F then [UInt8.ofNat code]
      else if code ≤ 0x7FF then
        [UInt8.ofNat (code / 64 % 0x20 + 0xC0), UInt8.ofNat (code % 0x40 + 0x80)]
      else if code ≤ 0xFFFF then
        [UInt8.ofNat (code / 4096 % 0x10 + 0xE0), UInt8.ofNat (code / 64 % 0x40 + 0x80),
          UInt8.ofNat (code % 0x40 + 0x80)]
      else
        [UInt8.ofNat (code / 262144 % 0x08 + 0xF0), UInt8.ofNat (code / 4096 % 0x40 + 0x80),
          UInt8.ofNat (code / 64 % 0x40 + 0x80), UInt8.ofNat (code % 0x40 + 0x80)] := by
  have same : (Char.ofNat code).val.toNat = code := by
    rw [Char.ofNat, dif_pos valid]
    rfl
  unfold String.utf8EncodeChar
  simp only [same]

private theorem utf8EncodeChar_two {first second : UInt8} {bits : Nat}
    (lead : first.toNat = 0xC0 + bits) (more : 2 ≤ bits) (room : bits < 0x20)
    (tail : 0x80 ≤ second.toNat ∧ second.toNat ≤ 0xBF) :
    String.utf8EncodeChar (Char.ofNat (gathered bits [second])) = [first, second] := by
  have code : gathered bits [second] = bits * 0x40 + second.toNat % 0x40 := rfl
  rw [code, utf8EncodeChar_ofNat (by unfold Nat.isValidChar; omega), if_neg (by omega),
    if_pos (by omega)]
  simp only [List.cons.injEq, and_true, ← UInt8.toNat_inj, UInt8.toNat_ofNat']
  omega

private theorem utf8EncodeChar_three {first second third : UInt8} {bits : Nat}
    (lead : first.toNat = 0xE0 + bits) (room : bits < 0x10)
    (middle : 0x80 ≤ second.toNat ∧ second.toNat ≤ 0xBF)
    (more : 0x20 ≤ bits * 0x40 + second.toNat % 0x40)
    (noSurrogate : bits * 0x40 + second.toNat % 0x40 < 0x360 ∨
      0x380 ≤ bits * 0x40 + second.toNat % 0x40)
    (tail : 0x80 ≤ third.toNat ∧ third.toNat ≤ 0xBF) :
    String.utf8EncodeChar (Char.ofNat (gathered bits [second, third])) =
      [first, second, third] := by
  have code : gathered bits [second, third] =
      (bits * 0x40 + second.toNat % 0x40) * 0x40 + third.toNat % 0x40 := rfl
  rw [code, utf8EncodeChar_ofNat (by unfold Nat.isValidChar; omega), if_neg (by omega),
    if_neg (by omega), if_pos (by omega)]
  simp only [List.cons.injEq, and_true, ← UInt8.toNat_inj, UInt8.toNat_ofNat']
  omega

private theorem utf8EncodeChar_four {first second third fourth : UInt8} {bits : Nat}
    (lead : first.toNat = 0xF0 + bits)
    (middle : 0x80 ≤ second.toNat ∧ second.toNat ≤ 0xBF)
    (more : 0x10 ≤ bits * 0x40 + second.toNat % 0x40)
    (room : bits * 0x40 + second.toNat % 0x40 < 0x110)
    (tail : 0x80 ≤ third.toNat ∧ third.toNat ≤ 0xBF)
    (last : 0x80 ≤ fourth.toNat ∧ fourth.toNat ≤ 0xBF) :
    String.utf8EncodeChar (Char.ofNat (gathered bits [second, third, fourth])) =
      [first, second, third, fourth] := by
  have code : gathered bits [second, third, fourth] =
      ((bits * 0x40 + second.toNat % 0x40) * 0x40 + third.toNat % 0x40) * 0x40 +
        fourth.toNat % 0x40 := rfl
  rw [code, utf8EncodeChar_ofNat (by unfold Nat.isValidChar; omega), if_neg (by omega),
    if_neg (by omega), if_neg (by omega)]
  simp only [List.cons.injEq, and_true, ← UInt8.toNat_inj, UInt8.toNat_ofNat']
  omega

theorem begin_one {byte : Nat} (lead : byte ≤ 0x7F) :
    begin byte = (.start, [.char (Char.ofNat byte)]) := by
  simp [begin, lead]

theorem begin_two {byte : Nat} (lead : 0xC2 ≤ byte ∧ byte ≤ 0xDF) :
    begin byte = (.inside (byte - 0xC0) 1 1 0x80 0xBF, []) := by
  unfold begin
  rw [if_neg (by omega), if_pos lead, show byte % 0x20 = byte - 0xC0 by omega]

theorem begin_three {byte : Nat} (lead : 0xE0 ≤ byte ∧ byte ≤ 0xEF) :
    begin byte = (.inside (byte - 0xE0) 1 2 (if byte = 0xE0 then 0xA0 else 0x80)
      (if byte = 0xED then 0x9F else 0xBF), []) := by
  unfold begin
  rw [if_neg (by omega), if_neg (by omega)]
  by_cases lowest : byte = 0xE0
  · simp [lowest]
  · by_cases surrogate : byte = 0xED
    · simp [surrogate]
    · rw [if_neg lowest, if_neg surrogate, if_pos (by omega), if_neg lowest, if_neg surrogate,
        show byte % 0x10 = byte - 0xE0 by omega]

theorem begin_four {byte : Nat} (lead : 0xF0 ≤ byte ∧ byte ≤ 0xF4) :
    begin byte = (.inside (byte - 0xF0) 1 3 (if byte = 0xF0 then 0x90 else 0x80)
      (if byte = 0xF4 then 0x8F else 0xBF), []) := by
  unfold begin
  rw [if_neg (by omega), if_neg (by omega), if_neg (by omega), if_neg (by omega),
    if_neg (by omega)]
  by_cases lowest : byte = 0xF0
  · simp [lowest]
  · by_cases highest : byte = 0xF4
    · simp [highest]
    · rw [if_neg lowest, if_pos (by omega), if_neg lowest, if_neg highest,
        show byte % 0x08 = byte - 0xF0 by omega]

theorem begin_other {byte : Nat} (notOne : 0x7F < byte) (notTwo : byte < 0xC2 ∨ 0xDF < byte)
    (notThree : byte < 0xE0 ∨ 0xEF < byte) (notFour : byte < 0xF0 ∨ 0xF4 < byte) :
    begin byte = (.start, [.refused 1]) := by
  unfold begin
  rw [if_neg (by omega), if_neg (by omega), if_neg (by omega), if_neg (by omega),
    if_neg (by omega), if_neg (by omega), if_neg (by omega), if_neg (by omega)]

/-- A character is one byte, or a first byte that opens it and bytes that
complete it. -/
inductive Sequence : List UInt8 → Char → Prop where
  | single {byte : UInt8} (small : byte.toNat ≤ 0x7F) :
      Sequence [byte] (Char.ofNat byte.toNat)
  | opened {byte : UInt8} {tail : List UInt8} {bits low high : Nat}
      (opens : begin byte.toNat = (.inside bits 1 tail.length low high, []))
      (completes : Completes low high tail) :
      Sequence (byte :: tail) (Char.ofNat (gathered bits tail))

/-- The bytes that are read as a character are its own. -/
theorem Sequence.encoded {bytes : List UInt8} {c : Char} (sequence : Sequence bytes c) :
    String.utf8EncodeChar c = bytes := by
  cases sequence with
  | @single byte small =>
    rw [utf8EncodeChar_ofNat (by unfold Nat.isValidChar; omega), if_pos small]
    simp
  | @opened byte tail bits low high opens completes =>
    by_cases one : byte.toNat ≤ 0x7F
    · rw [begin_one one] at opens
      cases opens
    by_cases two : 0xC2 ≤ byte.toNat ∧ byte.toNat ≤ 0xDF
    · rw [begin_two two] at opens
      simp only [Prod.mk.injEq, State.inside.injEq, and_true, true_and] at opens
      obtain ⟨rfl, length, rfl, rfl⟩ := opens
      obtain ⟨second, rfl⟩ := List.length_eq_one_iff.mp length.symm
      exact utf8EncodeChar_two (by omega) (by omega) (by omega) completes.1
    by_cases three : 0xE0 ≤ byte.toNat ∧ byte.toNat ≤ 0xEF
    · rw [begin_three three] at opens
      simp only [Prod.mk.injEq, State.inside.injEq, and_true, true_and] at opens
      obtain ⟨rfl, length, rfl, rfl⟩ := opens
      obtain ⟨second, third, rfl⟩ := List.length_eq_two.mp length.symm
      have inside := completes.1
      have tail := completes.2 third List.mem_cons_self
      split_ifs at inside <;>
        exact utf8EncodeChar_three (by omega) (by omega) (by omega) (by omega) (by omega) tail
    by_cases four : 0xF0 ≤ byte.toNat ∧ byte.toNat ≤ 0xF4
    · rw [begin_four four] at opens
      simp only [Prod.mk.injEq, State.inside.injEq, and_true, true_and] at opens
      obtain ⟨rfl, length, rfl, rfl⟩ := opens
      obtain ⟨second, third, fourth, rfl⟩ := List.length_eq_three.mp length.symm
      have inside := completes.1
      have tail := completes.2 third List.mem_cons_self
      have last := completes.2 fourth (List.mem_cons_of_mem _ List.mem_cons_self)
      split_ifs at inside <;>
        exact utf8EncodeChar_four (by omega) (by omega) (by omega) (by omega) tail last
    · rw [begin_other (by omega) (by omega) (by omega) (by omega)] at opens
      cases opens

/-- Every character has its sequence of bytes. -/
theorem sequence_utf8EncodeChar (c : Char) : Sequence (String.utf8EncodeChar c) c := by
  obtain ⟨code, valid, rfl⟩ : ∃ code, code.isValidChar ∧ c = Char.ofNat code :=
    ⟨c.toNat, c.valid, (Char.ofNat_toNat c).symm⟩
  unfold Nat.isValidChar at valid
  rw [utf8EncodeChar_ofNat valid]
  split
  · rename_i small
    have byte : (UInt8.ofNat code).toNat = code := by
      rw [UInt8.toNat_ofNat']
      omega
    have single := @Sequence.single (UInt8.ofNat code) (by omega)
    rwa [byte] at single
  have opened {first : UInt8} {tail : List UInt8} {bits low high : Nat}
      (opens : begin first.toNat = (.inside bits 1 tail.length low high, []))
      (completes : Completes low high tail) (same : gathered bits tail = code) :
      Sequence (first :: tail) (Char.ofNat code) :=
    same ▸ .opened opens completes
  split
  · refine opened (begin_two ?_) ⟨?_, nofun⟩ ?_
    all_goals simp only [gathered, List.foldl_cons, List.foldl_nil, UInt8.toNat_ofNat']
    all_goals omega
  split
  · refine opened (begin_three ?_) ⟨?_, ?_⟩ ?_
    all_goals simp only [gathered, List.foldl_cons, List.foldl_nil, UInt8.toNat_ofNat',
      List.mem_singleton, forall_eq]
    · omega
    · split_ifs <;> omega
    · omega
    · omega
  · refine opened (begin_four ?_) ⟨?_, ?_⟩ ?_
    all_goals simp only [gathered, List.foldl_cons, List.foldl_nil, UInt8.toNat_ofNat',
      List.mem_cons, List.not_mem_nil, or_false, forall_eq_or_imp, forall_eq]
    · omega
    · split_ifs <;> omega
    · omega
    · omega

theorem pieces_sequence {bytes : List UInt8} {c : Char} (sequence : Sequence bytes c)
    (rest : List UInt8) : pieces .start (bytes ++ rest) = .char c :: pieces .start rest := by
  cases sequence with
  | single small =>
    rw [List.singleton_append, pieces, step, begin_one small]
    rfl
  | opened opens completes =>
    rw [List.cons_append, pieces, step, opens]
    exact pieces_of_completes completes _ _ rest

/-- Characters that are read without a fault are a first character with its bytes,
and the characters behind it. -/
theorem sequence_of_strict {offset : Nat} {byte : UInt8} {bytes : List UInt8} {chars : List Char}
    (read : strict offset (pieces .start (byte :: bytes)) = .ok chars) :
    ∃ front rest c others later, byte :: bytes = front ++ rest ∧ Sequence front c ∧
      chars = c :: others ∧ strict later (pieces .start rest) = .ok others := by
  have opened {bits owed low high : Nat} (some_ : 0 < owed)
      (opens : begin byte.toNat = (.inside bits 1 owed low high, [])) :
      ∃ front rest c others later, byte :: bytes = front ++ rest ∧ Sequence front c ∧
        chars = c :: others ∧ strict later (pieces .start rest) = .ok others := by
    rw [pieces, step, opens] at read
    obtain ⟨tail, rest, others, later, rfl, rfl, completes, same, readRest⟩ :=
      completes_of_strict some_ read
    exact ⟨byte :: tail, rest, _, others, later, rfl, .opened opens completes, same, readRest⟩
  by_cases one : byte.toNat ≤ 0x7F
  · rw [pieces, step, begin_one one] at read
    obtain ⟨others, readRest, rfl⟩ := map_eq_ok_iff.mp read
    exact ⟨[byte], bytes, _, others, _, rfl, .single one, rfl, readRest⟩
  by_cases two : 0xC2 ≤ byte.toNat ∧ byte.toNat ≤ 0xDF
  · exact opened Nat.one_pos (begin_two two)
  by_cases three : 0xE0 ≤ byte.toNat ∧ byte.toNat ≤ 0xEF
  · exact opened Nat.two_pos (begin_three three)
  by_cases four : 0xF0 ≤ byte.toNat ∧ byte.toNat ≤ 0xF4
  · exact opened (Nat.succ_pos 2) (begin_four four)
  · rw [pieces, step, begin_other (by omega) (by omega) (by omega) (by omega)] at read
    cases read

/-- What is read without a fault is the characters whose bytes the input is. -/
theorem strict_spec {bytes : List UInt8} {chars : List Char} {offset : Nat} :
    strict offset (pieces .start bytes) = .ok chars ↔
      bytes = chars.flatMap String.utf8EncodeChar := by
  constructor
  · induction length : bytes.length using Nat.strong_induction_on
      generalizing bytes chars offset with
    | h size ih =>
      intro read
      cases bytes with
      | nil =>
        cases read
        rfl
      | cons byte after =>
        obtain ⟨front, rest, c, others, later, same, sequence, rfl, readRest⟩ :=
          sequence_of_strict read
        have shorter : rest.length < size := by
          have := congrArg List.length same
          have : 0 < front.length := by cases sequence <;> simp
          simp only [List.length_append] at *
          omega
        rw [same, ih _ shorter rfl readRest, List.flatMap_cons, sequence.encoded]
  · rintro rfl
    induction chars generalizing offset with
    | nil => rfl
    | cons c others ih =>
      rw [List.flatMap_cons, pieces_sequence (sequence_utf8EncodeChar c), strict, ih]
      rfl

private theorem toList_loop (bytes : ByteArray) (place : Nat) (taken : List UInt8) :
    ByteArray.toList.loop bytes place taken = taken.reverse ++ bytes.data.toList.drop place := by
  induction place, taken using ByteArray.toList.loop.induct bytes with
  | case1 place taken inside ih =>
    have there : place < bytes.data.toList.length := inside
    have byte : bytes.get! place = bytes.data.toList[place] := by
      rw [Array.getElem_toList]
      exact getElem!_pos bytes.data place inside
    rw [ByteArray.toList.loop, if_pos inside, ih, List.reverse_cons, List.append_assoc,
      List.singleton_append, byte, ← List.drop_eq_getElem_cons there]
  | case2 place taken outside =>
    have past : bytes.data.toList.length ≤ place := Nat.le_of_not_lt outside
    rw [ByteArray.toList.loop, if_neg outside, List.drop_eq_nil_of_le past, List.append_nil]

/-- The bytes of a text are those of its characters. -/
theorem encode_eq_flatMap (text : String) :
    encode text = text.toList.flatMap String.utf8EncodeChar := by
  have same : text.toUTF8 = text.toList.utf8Encode := (String.utf8Encode_toList).symm
  rw [encode, same, ByteArray.toList, toList_loop, List.utf8Encode, List.toList_data_toByteArray]
  rfl

/-- Bytes are read as a text exactly when they are its bytes. -/
theorem decode_spec {bytes : List UInt8} {text : String} :
    decode bytes = .ok text ↔ encode text = bytes := by
  rw [decode, map_eq_ok_iff, encode_eq_flatMap]
  constructor
  · rintro ⟨chars, read, rfl⟩
    rw [String.toList_ofList]
    exact (strict_spec.mp read).symm
  · rintro rfl
    exact ⟨text.toList, strict_spec.mpr rfl, String.ofList_toList⟩

end RecordSync.Text.Utf8

namespace RecordSync.Change

open RecordSync.Text

/-- The bytes of a text are delivered as that text. -/
theorem Delivery.ofBytes_encode (entityName text : String) :
    Delivery.ofBytes entityName (Utf8.encode text) = .ofText entityName text := by
  rw [ofBytes, Utf8.decode_spec.mpr rfl, ofText]

/-- Other bytes are delivered as unreadable, with a rendering of them. -/
theorem Delivery.ofBytes_of_ne {bytes : List UInt8} (noText : ∀ text, Utf8.encode text ≠ bytes)
    (entityName : String) :
    ∃ fault, Delivery.ofBytes entityName bytes =
      ⟨entityName, Utf8.decodeLossy bytes, some fault⟩ := by
  cases read : Utf8.decode bytes with
  | ok text => exact absurd (Utf8.decode_spec.mp read) (noText text)
  | error fault => exact ⟨fault, by rw [ofBytes, read]⟩

end RecordSync.Change
