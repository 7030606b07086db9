/-! The ranges of machine words, which bound the numbers that come from outside,
and the words of numbers within them. -/

namespace RecordSync.Number

/-- How many values a word has. -/
def word32 : Nat := 4294967296
def word64 : Nat := 18446744073709551616

/-- A signed word goes down to this number below zero, and up to just under it. -/
def signed32 : Nat := 2147483648
def signed64 : Nat := 9223372036854775808

/-- The 64-bit word of a number, if there is one. -/
def ofNat64? (number : Nat) : Option UInt64 :=
  if number < word64 then some (UInt64.ofNat number) else none

theorem ofNat64?_eq_some_iff {number : Nat} {word : UInt64} :
    ofNat64? number = some word ↔ word.toNat = number := by
  unfold ofNat64?
  split
  · rename_i fits
    have same : (UInt64.ofNat number).toNat = number := UInt64.toNat_ofNat_of_lt' fits
    rw [Option.some.injEq, ← UInt64.toNat_inj, same]
    exact eq_comm
  · rename_i tooLarge
    have bounded : word.toNat < word64 := word.toNat_lt
    exact ⟨nofun, fun same => absurd (same ▸ bounded) tooLarge⟩

theorem ofNat64?_of_lt {number : Nat} (fits : number < word64) :
    ∃ word, ofNat64? number = some word ∧ word.toNat = number :=
  ⟨_, if_pos fits, UInt64.toNat_ofNat_of_lt' fits⟩

/-- A remainder by a number of at most 32 bits has a 32-bit word. -/
theorem toNat_toUInt32_mod (word : UInt64) {modulus : UInt64} (positive : 0 < modulus.toNat)
    (short : modulus.toNat ≤ word32) :
    (word % modulus).toUInt32.toNat = word.toNat % modulus.toNat := by
  rw [UInt64.toNat_toUInt32, UInt64.toNat_mod]
  exact Nat.mod_eq_of_lt (Nat.lt_of_lt_of_le (Nat.mod_lt _ positive) short)

end RecordSync.Number
