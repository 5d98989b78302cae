import Mathlib
import Backplane.Text.Numeral

/-!
# Numerals read back

A number is the value of the digits that write it. A numeral has no zero in front of another
digit, and its digits are no longer than the bound of the number says.
-/

namespace Backplane.Numeral

/-- Reading goes on where the first digits end. -/
theorem readFrom_append (base acc : Nat) (cs ds : List Char) :
    readFrom base acc (cs ++ ds) = (readFrom base acc cs).bind fun n => readFrom base n ds := by
  induction cs generalizing acc with
  | nil => rfl
  | cons c cs ih =>
    simp only [List.cons_append, readFrom, Option.bind_eq_bind, Option.bind_assoc]
    exact congrArg _ (funext fun d => ih _)

/-- Digits count what they are written for. -/
theorem digitIn_digitChar {base d : Nat} (lt : d < base) (le : base ≤ 16) :
    digitIn base (Nat.digitChar d) = some d := by
  have values : ∀ d < 16, digitValue (Nat.digitChar d) = some d := by decide
  rw [digitIn, values d (Nat.lt_of_lt_of_le lt le)]
  exact Option.filter_some_pos (decide_eq_true lt)

/-- The characters of a numeral are digits of its base. -/
theorem exists_digitChar {base n : Nat} {c : Char} (one : 1 < base)
    (mem : c ∈ Nat.toDigits base n) : ∃ d < base, Nat.digitChar d = c := by
  induction n using Nat.strongRecOn with
  | ind n ih =>
    by_cases small : n < base
    · rw [Nat.toDigits_of_lt_base small] at mem
      exact ⟨n, small, (List.mem_singleton.mp mem).symm⟩
    · have large := Nat.le_of_not_lt small
      rw [Nat.toDigits_of_base_le one large] at mem
      rcases List.mem_append.mp mem with mem | mem
      · exact ih (n / base) (Nat.div_lt_self (by omega) one) mem
      · exact ⟨n % base, Nat.mod_lt n (by omega), (List.mem_singleton.mp mem).symm⟩

theorem readFrom_toDigits {base : Nat} (one : 1 < base) (le : base ≤ 16) (n : Nat) :
    readFrom base 0 (Nat.toDigits base n) = some n := by
  induction n using Nat.strongRecOn with
  | ind n ih =>
    by_cases small : n < base
    · rw [Nat.toDigits_of_lt_base small, readFrom, digitIn_digitChar small le]
      simp only [Option.bind_eq_bind, Option.bind_some, readFrom_nil, Nat.zero_mul, Nat.zero_add]
    · have large := Nat.le_of_not_lt small
      have last : n % base < base := Nat.mod_lt n (Nat.lt_trans Nat.zero_lt_one one)
      have first := ih (n / base) (Nat.div_lt_self (by omega) one)
      rw [Nat.toDigits_of_base_le one large, readFrom_append, first, Option.bind_some, readFrom,
        digitIn_digitChar last le]
      simp only [Option.bind_eq_bind, Option.bind_some, readFrom_nil, Nat.div_add_mod']

/-- The digits of a number write that number. -/
theorem readDigits_toDigits {base : Nat} (one : 1 < base) (le : base ≤ 16) (n : Nat) :
    readDigits base (Nat.toDigits base n) = some n := by
  have digits := readFrom_toDigits one le n
  cases written : Nat.toDigits base n with
  | nil => exact absurd written Nat.toDigits_ne_nil
  | cons c cs => rw [written] at digits; exact digits

theorem decimal_injective : Function.Injective decimal := by
  intro n k same
  have digits : Nat.toDigits 10 n = Nat.toDigits 10 k := String.ofList_injective same
  have read := readDigits_toDigits (by decide : 1 < 10) (by decide) n
  rw [digits, readDigits_toDigits (by decide) (by decide) k] at read
  exact Option.some.inj read.symm

/-- A zero stands in front only by itself. -/
theorem length_toDigits_of_head {n : Nat} (zero : (Nat.toDigits 10 n).head? = some '0') :
    (Nat.toDigits 10 n).length = 1 := by
  induction n using Nat.strongRecOn with
  | ind n ih =>
    by_cases small : n < 10
    · rw [Nat.toDigits_of_lt_base small]
      rfl
    · have large := Nat.le_of_not_lt small
      have before : (Nat.toDigits 10 (n / 10)).head? = some '0' := by
        rw [Nat.toDigits_of_base_le (by decide) large] at zero
        rwa [List.head?_append_of_ne_nil _ Nat.toDigits_ne_nil] at zero
      have single := ih (n / 10) (by omega) before
      -- A single digit that is zero leaves nothing to divide.
      have tiny := (Nat.length_toDigits_le_iff (by decide) Nat.one_pos).mp single.le
      rw [Nat.toDigits_of_lt_base (by omega), List.head?_cons, Option.some.injEq,
        Nat.digitChar_eq_zero] at before
      omega

theorem isDigit_decimal {n : Nat} {c : Char} (mem : c ∈ Nat.toDigits 10 n) : c.isDigit = true :=
  Nat.isDigit_of_mem_toDigits (by decide) (Nat.le_refl 10) mem

/-- A numeral below a bound is read under that bound. -/
theorem readUnsigned_toDigits {bound n : Nat} (lt : n < bound) :
    readUnsigned 16 bound (Nat.toDigits 16 n) = some n := by
  have digits := readDigits_toDigits (by decide) (Nat.le_refl 16) n
  have unsigned : readUnsigned 16 bound (Nat.toDigits 16 n) =
      (readDigits 16 (Nat.toDigits 16 n)).filter (· < bound) := by
    unfold readUnsigned
    split
    · rename_i rest plus
      -- No digit is a plus sign.
      rw [plus] at digits
      cases digits
    · rfl
  rw [unsigned, digits]
  exact Option.filter_some_pos (decide_eq_true lt)

end Backplane.Numeral
