import Mathlib
import Backplane.Proofs.Text.Numeral

/-!
# What digits write

A number is written by one or more digits of its base, letters of either case standing
for ten and more (`Writes`). Reading is exact: it gives a number if and only if the
characters write that number (`readDigits_eq_some_iff`), apart from one plus sign that
`readUnsigned` passes over (`readUnsigned_eq_some_iff`).
-/

namespace Backplane.Numeral

/-- `c` is the digit of value `d`, a letter of either case. -/
def Stands (base d : Nat) (c : Char) : Prop :=
  d < base ∧
    ("0123456789abcdef".toList[d]? = some c ∨ "0123456789ABCDEF".toList[d]? = some c)

/-- The digits `cs` write `n`, the last of them last. -/
inductive Writes (base : Nat) : Nat → List Char → Prop
  /-- One digit. -/
  | one {d : Nat} {c : Char} : Stands base d c → Writes base d [c]
  /-- A digit after others. -/
  | more {n d : Nat} {cs : List Char} {c : Char} : Writes base n cs → Stands base d c →
    Writes base (n * base + d) (cs ++ [c])

variable {base n : Nat} {cs : List Char} {c : Char}

instance (base d : Nat) (c : Char) : Decidable (Stands base d c) :=
  inferInstanceAs (Decidable (_ ∧ _))

/-! ## One digit -/

theorem Stands.digitIn_eq {d : Nat} (stands : Stands base d c) (le : base ≤ 16) :
    digitIn base c = some d := by
  obtain ⟨lt, listed⟩ := stands
  have values : ∀ d < 16, "0123456789abcdef".toList[d]?.all (digitValue · = some d) ∧
      "0123456789ABCDEF".toList[d]?.all (digitValue · = some d) := by decide
  obtain ⟨small, capital⟩ := values d (Nat.lt_of_lt_of_le lt le)
  have value : digitValue c = some d := by
    rcases listed with here | here
    · rw [here] at small
      exact of_decide_eq_true small
    · rw [here] at capital
      exact of_decide_eq_true capital
  rw [digitIn, value]
  exact Option.filter_some_pos (decide_eq_true lt)

/-- A character that has a value is one of the first 128. -/
theorem toNat_lt_of_digitValue {d : Nat} (value : digitValue c = some d) : c.toNat < 128 := by
  unfold digitValue at value
  split at value
  · rename_i range
    exact Nat.lt_of_le_of_lt range.2 (by decide)
  split at value
  · rename_i range
    exact Nat.lt_of_le_of_lt range.2 (by decide)
  split at value
  · rename_i range
    exact Nat.lt_of_le_of_lt range.2 (by decide)
  · cases value

theorem stands_of_digitIn {d : Nat} (le : base ≤ 16) (digit : digitIn base c = some d) :
    Stands base d c := by
  obtain ⟨value, below⟩ := Option.filter_eq_some_iff.mp digit
  have lt := of_decide_eq_true below
  have listed : ∀ k < 128, ∀ d ∈ digitValue (Char.ofNat k), d < 16 →
      Stands 16 d (Char.ofNat k) := by decide
  have here := listed c.toNat (toNat_lt_of_digitValue value) d
  rw [Char.ofNat_toNat] at here
  exact ⟨lt, (here value (Nat.lt_of_lt_of_le lt le)).2⟩

/-- The characters that are digits in bases up to sixteen. -/
def alphabet : List Char := "0123456789abcdefABCDEF".toList

theorem Stands.mem_alphabet {d : Nat} (stands : Stands base d c) (le : base ≤ 16) :
    c ∈ alphabet := by
  have listed : ∀ d < 16, "0123456789abcdef".toList[d]?.all (· ∈ alphabet) ∧
      "0123456789ABCDEF".toList[d]?.all (· ∈ alphabet) := by decide
  obtain ⟨small, capital⟩ := listed d (Nat.lt_of_lt_of_le stands.1 le)
  rcases stands.2 with here | here
  · rw [here] at small
    exact of_decide_eq_true small
  · rw [here] at capital
    exact of_decide_eq_true capital

/-! ## All digits -/

theorem Writes.ne_nil (writes : Writes base n cs) : cs ≠ [] := by
  cases writes with
  | one => exact List.cons_ne_nil _ _
  | more => simp

theorem Writes.mem_alphabet (writes : Writes base n cs) (le : base ≤ 16) :
    ∀ c ∈ cs, c ∈ alphabet := by
  induction writes with
  | one stands =>
    rintro c (_ | ⟨_, ⟨⟩⟩)
    exact stands.mem_alphabet le
  | more _ stands ih =>
    intro c mem
    rcases List.mem_append.mp mem with mem | mem
    · exact ih c mem
    · obtain rfl := List.mem_singleton.mp mem
      exact stands.mem_alphabet le

theorem readFrom_concat (base acc : Nat) (cs : List Char) (c : Char) :
    readFrom base acc (cs ++ [c]) =
      (readFrom base acc cs).bind fun n => (digitIn base c).map fun d => n * base + d := by
  rw [readFrom_append]
  refine congrArg _ (funext fun n => ?_)
  rw [readFrom]
  cases digitIn base c <;> rfl

theorem Writes.readFrom_eq (writes : Writes base n cs) (le : base ≤ 16) :
    readFrom base 0 cs = some n := by
  induction writes with
  | one stands =>
    rw [readFrom, stands.digitIn_eq le]
    simp only [Option.bind_eq_bind, Option.bind_some, readFrom_nil, Nat.zero_mul, Nat.zero_add]
  | more _ stands ih => rw [readFrom_concat, ih, Option.bind_some, stands.digitIn_eq le]; rfl

theorem writes_of_readFrom (le : base ≤ 16) (read : readFrom base 0 cs = some n)
    (nonempty : cs ≠ []) : Writes base n cs := by
  induction cs using List.reverseRecOn generalizing n with
  | nil => exact absurd rfl nonempty
  | append_singleton cs c ih =>
    rw [readFrom_concat, Option.bind_eq_some_iff] at read
    obtain ⟨front, before, last⟩ := read
    obtain ⟨d, digit, rfl⟩ := Option.map_eq_some_iff.mp last
    have stands := stands_of_digitIn le digit
    by_cases empty : cs = []
    · subst empty
      obtain rfl : 0 = front := Option.some.inj before
      rw [Nat.zero_mul, Nat.zero_add]
      exact .one stands
    · exact .more (ih before empty) stands

/-- Reading digits gives the number that they write, and nothing for other characters. -/
theorem readDigits_eq_some_iff (le : base ≤ 16) :
    readDigits base cs = some n ↔ Writes base n cs := by
  cases cs with
  | nil => exact iff_of_false nofun fun writes => writes.ne_nil rfl
  | cons c cs =>
    exact ⟨fun read => writes_of_readFrom le read (List.cons_ne_nil _ _), fun writes =>
      writes.readFrom_eq le⟩

/-- Digits write one number at most. -/
theorem Writes.unique {n' : Nat} (writes : Writes base n cs) (writes' : Writes base n' cs)
    (le : base ≤ 16) : n = n' :=
  Option.some.inj ((writes.readFrom_eq le).symm.trans (writes'.readFrom_eq le))

/-! ## A sign in front -/

theorem not_writes_plus (le : base ≤ 16) : ¬Writes base n ('+' :: cs) := fun writes =>
  absurd (writes.mem_alphabet le '+' List.mem_cons_self) (by decide)

theorem readDigits_filter_eq_some_iff {bound : Nat} (le : base ≤ 16) :
    (readDigits base cs).filter (· < bound) = some n ↔ n < bound ∧ Writes base n cs := by
  rw [Option.filter_eq_some_iff, readDigits_eq_some_iff le, decide_eq_true_iff, and_comm]

/-- Reading gives the number below the bound that the digits write, with or without a plus
sign in front. -/
theorem readUnsigned_eq_some_iff {bound : Nat} (le : base ≤ 16) :
    readUnsigned base bound cs = some n ↔
      n < bound ∧ (Writes base n cs ∨ ∃ digits, cs = '+' :: digits ∧ Writes base n digits) := by
  unfold readUnsigned
  split
  · rename_i digits
    rw [readDigits_filter_eq_some_iff le]
    refine and_congr_right fun _ => ⟨fun writes => .inr ⟨digits, rfl, writes⟩, ?_⟩
    rintro (writes | ⟨_, ⟨⟩, writes⟩)
    · exact absurd writes (not_writes_plus le)
    · exact writes
  · rename_i unsigned
    rw [readDigits_filter_eq_some_iff le]
    refine and_congr_right fun _ => ⟨.inl, ?_⟩
    rintro (writes | ⟨digits, rfl, -⟩)
    · exact writes
    · exact absurd rfl (unsigned digits)

/-- Every number is written by some digits. -/
theorem writes_toDigits (one : 1 < base) (le : base ≤ 16) (n : Nat) :
    Writes base n (Nat.toDigits base n) :=
  (readDigits_eq_some_iff le).mp (readDigits_toDigits one le n)

/-! ## Padded numerals -/

theorem Stands.toUpper {d : Nat} (stands : Stands base d c) (le : base ≤ 16) :
    Stands base d c.toUpper := by
  have capitals : ∀ d < 16,
      "0123456789abcdef".toList[d]?.map Char.toUpper = "0123456789ABCDEF".toList[d]? ∧
        "0123456789ABCDEF".toList[d]?.map Char.toUpper = "0123456789ABCDEF".toList[d]? := by
    decide
  obtain ⟨small, capital⟩ := capitals d (Nat.lt_of_lt_of_le stands.1 le)
  refine ⟨stands.1, .inr ?_⟩
  rcases stands.2 with here | here
  · rw [← small, here, Option.map_some]
  · rw [← capital, here, Option.map_some]

theorem Writes.map_toUpper (writes : Writes base n cs) (le : base ≤ 16) :
    Writes base n (cs.map Char.toUpper) := by
  induction writes with
  | one stands => exact .one (stands.toUpper le)
  | more _ stands ih =>
    rw [List.map_append]
    exact .more ih (stands.toUpper le)

/-- Zeros in front change nothing. -/
theorem Writes.cons_zero (writes : Writes base n cs) (pos : 0 < base) :
    Writes base n ('0' :: cs) := by
  have zero : Writes base 0 ['0'] := .one ⟨pos, .inl rfl⟩
  induction writes with
  | @one d c stands =>
    have two := Writes.more zero stands
    rwa [Nat.zero_mul, Nat.zero_add] at two
  | more _ stands ih => exact .more ih stands

theorem writes_hexPadded (width n : Nat) : Writes 16 n (hexPadded width n).toList := by
  have digits := (writes_toDigits (by decide : 1 < 16) (Nat.le_refl 16) n).map_toUpper
    (Nat.le_refl 16)
  rw [hexPadded, String.toList_ofList, hexDigits]
  generalize width - _ = zeros
  induction zeros with
  | zero => exact digits
  | succ zeros ih => exact ih.cons_zero (by decide)

/-- Numbers that are shown alike are the same. -/
theorem hexPadded_injective (width : Nat) : Function.Injective (hexPadded width) := by
  intro n n' same
  have writes := writes_hexPadded width n
  rw [same] at writes
  exact writes.unique (writes_hexPadded width n') (Nat.le_refl 16)

end Backplane.Numeral
