import Backplane.Json.Value

/-!
# Records in JSON

A record is an object with known members, in any order, or an array of their
values, in the order of the record. Members that are not known are ignored, ones
at the end of an array may be missing, and a known member must not be repeated.

A choice is a record with one more member, its tag, which comes first in an
array and says which record it is.
-/

namespace Backplane.Json

/-- The values of the members called `name`. -/
def valuesOf (name : String) (members : List (Option String × Json)) : List Json :=
  (members.filter fun m => m.1 = some name).map Prod.snd

/-- The value of the member called `name`, if there is one; fails if it is
repeated. -/
def member? (name : String) (members : List (Option String × Json)) : Option (Option Json) :=
  match valuesOf name members with
  | [] => some none
  | [value] => some (some value)
  | _ => none

/-- The values of the members of a record, each if it is there. -/
def fields? (names : List String) : Json → Option (List (Option Json))
  | .object members =>
    if members.all fun m => m.1.isSome then names.mapM fun name => member? name members
    else none
  | .array items =>
    if items.length ≤ names.length then
      some (items.map some ++ List.replicate (names.length - items.length) none)
    else none
  | _ => none

/-- The tag of a choice and the record that goes with it. -/
def choice? (tag : String) : Json → Option (Json × Json)
  | .object members =>
    match valuesOf tag members with
    | [value] => some (value, .object (members.filter fun m => m.1 ≠ some tag))
    | _ => none
  | .array (value :: items) => some (value, .array items)
  | _ => none

/-- A field that must be there. -/
def required {α : Type} (read : Json → Option α) (field : Option Json) : Option α :=
  field.bind read

/-- A field that stands for `default` if it is not there. -/
def withDefault {α : Type} (default : α) (read : Json → Option α) (field : Option Json) :
    Option α :=
  match field with
  | none => some default
  | some json => read json

/-- A value that may also be `null`. -/
def nullable {α : Type} (read : Json → Option α) : Json → Option (Option α)
  | .null => some none
  | json => (read json).map some

/-- All items of an array. -/
def list {α : Type} (read : Json → Option α) (json : Json) : Option (List α) :=
  json.items?.bind fun items => items.mapM read

/-- An integer from 0 up to `bound`, which it does not reach. -/
def natBelow (bound : Nat) (json : Json) : Option Nat :=
  match json.integer? with
  | some (.ofNat n) => if n < bound then some n else none
  | _ => none

/-- An integer of 8 bits. -/
def uint8? (json : Json) : Option UInt8 := (json.natBelow UInt8.size).map Nat.toUInt8

/-- An integer of 32 bits. -/
def uint32? (json : Json) : Option UInt32 := (json.natBelow UInt32.size).map Nat.toUInt32

/-- An integer of 32 bits with a sign. -/
def int32? (json : Json) : Option Int32 :=
  match json.integer? with
  | some i => if Int32.minValue.toInt ≤ i ∧ i ≤ Int32.maxValue.toInt then some (Int32.ofInt i) else none
  | none => none

end Backplane.Json
