/-!
# Numerals

Written numbers: decimal and hexadecimal numerals with a least width, and the
reading of unsigned numerals below a bound.

A numeral is read digit by digit in its base, letters of either case counting
from ten; one plus sign may stand in front.
-/

namespace Backplane.Numeral

/-! ## Writing -/

/-- The digits of `n` in base sixteen, letters in capitals, most significant
first. -/
def hexDigits (n : Nat) : List Char :=
  (Nat.toDigits 16 n).map Char.toUpper

/-- The shortest hexadecimal numeral of `n`, in capitals. -/
def hex (n : Nat) : String :=
  String.ofList (hexDigits n)

/-- The hexadecimal numeral of `n` in capitals, filled up with zeros to `width`
digits. -/
def hexPadded (width n : Nat) : String :=
  String.ofList (List.replicate (width - (hexDigits n).length) '0' ++ hexDigits n)

/-- The shortest hexadecimal numeral of `n`, in small letters. -/
def hexLower (n : Nat) : String :=
  String.ofList (Nat.toDigits 16 n)

/-- The decimal numeral of `n`. -/
def decimal (n : Nat) : String :=
  String.ofList (Nat.toDigits 10 n)

/-- The decimal numeral of `i`, with a minus sign if it is negative. -/
def signed (i : Int) : String :=
  if i < 0 then "-" ++ decimal i.natAbs else decimal i.natAbs

/-! ## Reading -/

/-- The value of a digit or letter, letters of either case counting from ten. -/
def digitValue (c : Char) : Option Nat :=
  if '0' ≤ c ∧ c ≤ '9' then some (c.toNat - '0'.toNat)
  else if 'a' ≤ c ∧ c ≤ 'z' then some (c.toNat - 'a'.toNat + 10)
  else if 'A' ≤ c ∧ c ≤ 'Z' then some (c.toNat - 'A'.toNat + 10)
  else none

/-- The value of `c` as a digit of base `base`. -/
def digitIn (base : Nat) (c : Char) : Option Nat :=
  (digitValue c).filter (· < base)

/-- Continues the number `acc` with the digits `cs`; fails at a character that
is no digit. -/
def readFrom (base : Nat) : Nat → List Char → Option Nat
  | acc, [] => some acc
  | acc, c :: cs => do
    let d ← digitIn base c
    readFrom base (acc * base + d) cs

/-- The number written by one or more digits. -/
def readDigits (base : Nat) : List Char → Option Nat
  | [] => none
  | cs => readFrom base 0 cs

/-- The number below `bound` written by one or more digits, after at most one
plus sign. -/
def readUnsigned (base bound : Nat) (cs : List Char) : Option Nat :=
  let digits := match cs with
    | '+' :: rest => rest
    | _ => cs
  (readDigits base digits).filter (· < bound)

@[simp] theorem readDigits_nil (base : Nat) : readDigits base [] = none := rfl

@[simp] theorem readFrom_nil (base acc : Nat) : readFrom base acc [] = some acc := rfl

end Backplane.Numeral
