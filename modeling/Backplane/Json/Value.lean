import Backplane.Text.Numeral

/-!
# JSON values

A number is kept as it is written, so that nothing is lost of it; `integer?`
and `isFinite` say what it stands for. A string literal may escape half of a
surrogate pair; then it spells no text, and neither does a key.

`isSound` tells the values that can be kept whole: every text spells something,
every number is finite, and containers are nested within a limit.
-/

namespace Backplane

/-- A JSON value. -/
inductive Json where
  /-- The value `null`. -/
  | null
  /-- A truth value. -/
  | bool (value : Bool)
  /-- A number, as it is written. -/
  | number (literal : String)
  /-- A string, if it spells a text. -/
  | text (value : Option String)
  /-- An array. -/
  | array (items : List Json)
  /-- An object, with its members in order. -/
  | object (members : List (Option String × Json))
  deriving Inhabited

namespace Json

/-! ## Numbers -/

/-- The parts of a number as it is written. -/
structure NumberParts where
  /-- Whether it begins with a minus sign. -/
  negative : Bool
  /-- The digits before the point. -/
  whole : List Char
  /-- The digits after the point. -/
  fraction : List Char
  /-- The exponent, if one is written: its sign and digits. -/
  exponent : Option (Bool × List Char)
  deriving DecidableEq, Repr

/-- Splits a run of digits from the front. -/
def spanDigits (cs : List Char) : List Char × List Char := cs.span Char.isDigit

/-- Reads an exponent that takes up all of `cs`, or nothing if `cs` is empty. -/
def readExponent (cs : List Char) : Option (Option (Bool × List Char)) :=
  let signed := fun (negative : Bool) (ds : List Char) =>
    if ds ≠ [] ∧ ds.all Char.isDigit then some (some (negative, ds)) else none
  match cs with
  | [] => some none
  | e :: rest =>
    if e = 'e' ∨ e = 'E' then
      match rest with
      | '-' :: ds => signed true ds
      | '+' :: ds => signed false ds
      | ds => signed false ds
    else none

/-- Reads a number that takes up all of `cs`: at least one digit, no zero in
front of another digit, and digits after a point. -/
def readNumber (cs : List Char) : Option NumberParts := do
  let negative := cs.head? = some '-'
  let (whole, rest) := spanDigits (if negative then cs.drop 1 else cs)
  if whole = [] ∨ (whole.head? = some '0' ∧ whole.length ≠ 1) then none
  else match rest with
    | '.' :: rest =>
      let (fraction, rest) := spanDigits rest
      if fraction = [] then none
      else do
        let exponent ← readExponent rest
        return ⟨negative, whole, fraction, exponent⟩
    | rest => do
      let exponent ← readExponent rest
      return ⟨negative, whole, [], exponent⟩

namespace NumberParts

variable (n : NumberParts)

/-- The integer that is written, without point or exponent; a negative zero is
none. -/
def integer? : Option Int :=
  if n.fraction ≠ [] ∨ n.exponent.isSome then none
  else match Numeral.readDigits 10 n.whole with
    | none => none
    | some value =>
      if n.negative then if value = 0 then none else some (-(value : Int)) else some value

/-- The power of ten by which the digits, read as one number, are scaled. -/
def scale : Int :=
  let exponent := match n.exponent with
    | none => 0
    | some (negative, digits) =>
      let value : Int := (Numeral.readDigits 10 digits).getD 0
      if negative then -value else value
  exponent - n.fraction.length

/-- The least number that is too large for a double of 64 bits. -/
def doubleLimit : Nat := (1 <<< 1024) - (1 <<< 970)

/-- Whether the number lies within the range of a double of 64 bits. -/
def isFinite : Bool :=
  let digits := (n.whole ++ n.fraction).dropWhile (· = '0')
  let magnitude := digits.length + n.scale
  if digits = [] ∨ magnitude ≤ 308 then true
  else if 309 < magnitude then false
  else
    let value := (Numeral.readDigits 10 digits).getD 0
    value * Nat.pow 10 n.scale.toNat < doubleLimit * Nat.pow 10 (-n.scale).toNat

end NumberParts

/-! ## Values -/

/-- The number `i`. -/
def ofInt (i : Int) : Json := .number (Numeral.signed i)

/-- The number `n`. -/
def ofNat (n : Nat) : Json := .number (Numeral.decimal n)

/-- The string that spells `s`. -/
def ofString (s : String) : Json := .text (some s)

/-- The value that stands for `a`, or `null`. -/
def ofOption {α : Type} (encode : α → Json) : Option α → Json
  | some a => encode a
  | none => .null

/-- The array of the values that stand for some items. -/
def ofList {α : Type} (encode : α → Json) (items : List α) : Json := .array (items.map encode)

/-- The object with these members. -/
def record (members : List (String × Json)) : Json :=
  .object (members.map fun m => (some m.1, m.2))

/-- The number `n` of 8 bits. -/
def ofUInt8 (n : UInt8) : Json := ofNat n.toNat

/-- The number `n` of 16 bits. -/
def ofUInt16 (n : UInt16) : Json := ofNat n.toNat

/-- The number `n` of 32 bits. -/
def ofUInt32 (n : UInt32) : Json := ofNat n.toNat

/-- The number `n` of 64 bits. -/
def ofUInt64 (n : UInt64) : Json := ofNat n.toNat

/-- The integer that a value is. -/
def integer? : Json → Option Int
  | .number literal => (readNumber literal.toList).bind NumberParts.integer?
  | _ => none

/-- The text that a value spells. -/
def string? : Json → Option String
  | .text value => value
  | _ => none

/-- The truth value that a value is. -/
def bool? : Json → Option Bool
  | .bool value => some value
  | _ => none

/-- The items of an array. -/
def items? : Json → Option (List Json)
  | .array items => some items
  | _ => none

/-- Whether a value can be kept whole, with containers nested at most `room`
deep. -/
def isSound : Nat → Json → Bool
  | _, .null | _, .bool _ => true
  | _, .number literal => (readNumber literal.toList).any NumberParts.isFinite
  | _, .text value => value.isSome
  | 0, .array _ | 0, .object _ => false
  | room + 1, .array items => items.all (isSound room)
  | room + 1, .object members => members.all fun m => m.1.isSome && isSound room m.2

end Json
end Backplane
