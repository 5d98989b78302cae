import Mathlib
import Backplane.Json.Record
import Backplane.Profile.Printer
import Backplane.Proofs.Json.Numbers
import Backplane.Proofs.Text.FlagSet

/-!
# Records read back

The fields of a record are the values of the members that were written, whichever members were
left out (`fields?_written`), and so are the tag of a choice and the record that goes with it.
-/

namespace Backplane.Json

/-! ## Values without parts -/

theorem natBelow_ofNat {n bound : Nat} (lt : n < bound) : (ofNat n).natBelow bound = some n := by
  have value : (ofNat n).integer? = some (Int.ofNat n) := by
    rw [ofNat_eq, integer?_ofInt]
    rfl
  rw [natBelow, value]
  exact if_pos lt

@[simp] theorem uint8?_ofUInt8 (n : UInt8) : (ofUInt8 n).uint8? = some n := by
  rw [uint8?, ofUInt8, natBelow_ofNat n.toNat_lt, Option.map_some, Nat.toUInt8, UInt8.ofNat_toNat]

@[simp] theorem uint32?_ofUInt32 (n : UInt32) : (ofUInt32 n).uint32? = some n := by
  rw [uint32?, ofUInt32, natBelow_ofNat n.toNat_lt, Option.map_some, Nat.toUInt32,
    UInt32.ofNat_toNat]

@[simp] theorem int32?_ofInt (n : Int32) : (ofInt n.toInt).int32? = some n := by
  have above : Int32.minValue.toInt ≤ n.toInt := n.minValue_le_toInt
  have below : n.toInt ≤ Int32.maxValue.toInt := Int32.toInt_le n
  rw [int32?, integer?_ofInt]
  simp only [above, below, and_self, if_true, Int32.ofInt_toInt]

@[simp] theorem string?_ofString (s : String) : (ofString s).string? = some s := rfl

@[simp] theorem bool?_bool (b : Bool) : (Json.bool b).bool? = some b := rfl

@[simp] theorem isSound_ofUInt8 (room : Nat) (n : UInt8) : (ofUInt8 n).isSound room = true := by
  have lt := n.toNat_lt
  rw [ofUInt8, ofNat_eq]
  exact isSound_ofInt room (by omega)

@[simp] theorem isSound_ofUInt32 (room : Nat) (n : UInt32) :
    (ofUInt32 n).isSound room = true := by
  have lt := n.toNat_lt
  rw [ofUInt32, ofNat_eq]
  exact isSound_ofInt room (by omega)

@[simp] theorem isSound_ofInt32 (room : Nat) (n : Int32) :
    (ofInt n.toInt).isSound room = true := by
  have above := n.le_toInt
  have below := n.toInt_lt
  exact isSound_ofInt room (by omega)

@[simp] theorem isSound_ofString (room : Nat) (s : String) : (ofString s).isSound room = true := by
  rw [ofString, isSound]
  rfl

@[simp] theorem list_array {α : Type} {read : Json → Option α} {encode : α → Json}
    (each : ∀ x, read (encode x) = some x) (xs : List α) :
    list read (.array (xs.map encode)) = some xs := by
  rw [list, items?, Option.bind_some, mapM_map_of_eq fun x _ => each x, List.map_id']

/-! ## Records -/

@[simp] theorem required_some {α : Type} (read : Json → Option α) (json : Json) :
    required read (some json) = read json := rfl

@[simp] theorem withDefault_some {α : Type} (default : α) (read : Json → Option α) (json : Json) :
    withDefault default read (some json) = read json := rfl

@[simp] theorem withDefault_none {α : Type} (default : α) (read : Json → Option α) :
    withDefault default read none = some default := rfl

@[simp] theorem member_fst (name : String) (value : Json) : (member name value).1 = some name := rfl

@[simp] theorem member_snd (name : String) (value : Json) : (member name value).2 = value := rfl

/-- The members that are written for some fields; a field may be left out. -/
def writtenMembers (fields : List (String × Option Json)) : List (Option String × Json) :=
  fields.filterMap fun f => f.2.map (member f.1)

theorem valuesOf_writtenMembers_cons (name : String) (f : String × Option Json)
    (fields : List (String × Option Json)) :
    valuesOf name (writtenMembers (f :: fields)) =
      (if f.1 = name then f.2.toList else []) ++ valuesOf name (writtenMembers fields) := by
  obtain ⟨other, value⟩ := f
  cases value with
  | none => simp [writtenMembers]
  | some value =>
    by_cases same : other = name <;> simp [writtenMembers, valuesOf, same]

theorem valuesOf_writtenMembers_of_not_mem {name : String} {fields : List (String × Option Json)}
    (absent : name ∉ fields.map Prod.fst) : valuesOf name (writtenMembers fields) = [] := by
  induction fields with
  | nil => rfl
  | cons f fields ih =>
    rw [List.map_cons, List.mem_cons, not_or] at absent
    rw [valuesOf_writtenMembers_cons, if_neg (Ne.symm absent.1), ih absent.2, List.append_nil]

/-- The values of a member are the one that was written, if one was. -/
theorem valuesOf_writtenMembers {f : String × Option Json} {fields : List (String × Option Json)}
    (distinct : (fields.map Prod.fst).Nodup) (mem : f ∈ fields) :
    valuesOf f.1 (writtenMembers fields) = f.2.toList := by
  induction fields with
  | nil => cases mem
  | cons g fields ih =>
    obtain ⟨fresh, rest⟩ := List.nodup_cons.mp distinct
    rw [valuesOf_writtenMembers_cons]
    rcases List.mem_cons.mp mem with rfl | mem
    · rw [if_pos rfl, valuesOf_writtenMembers_of_not_mem fresh, List.append_nil]
    · have other : g.1 ≠ f.1 := fun same => fresh (same ▸ List.mem_map_of_mem mem)
      rw [if_neg other, ih rest mem, List.nil_append]

/-- The fields of a record are the values that were written. -/
theorem fields?_written (names : List String) (distinct : names.Nodup)
    (values : List (Option Json)) (same : names.length = values.length) :
    fields? names (.object (writtenMembers (names.zip values))) = some values := by
  have keys : (names.zip values).map Prod.fst = names := List.map_fst_zip same.le
  have named : (writtenMembers (names.zip values)).all (fun m => m.1.isSome) = true := by
    rw [List.all_eq_true]
    intro m mem
    obtain ⟨f, -, written⟩ := List.mem_filterMap.mp mem
    obtain ⟨value, -, rfl⟩ := Option.map_eq_some_iff.mp written
    rfl
  have each : ∀ f ∈ names.zip values,
      member? f.1 (writtenMembers (names.zip values)) = some f.2 := by
    intro f mem
    rw [member?, valuesOf_writtenMembers (by rwa [keys]) mem]
    cases f.2 <;> rfl
  have read := mapM_map_of_eq (f := fun name => member? name (writtenMembers (names.zip values)))
    (g := Prod.fst) (h := Prod.snd) each
  rw [keys, List.map_snd_zip same.ge] at read
  rw [fields?, if_pos named, read]

/-- The tag of a choice that was written first. -/
theorem choice?_written {tag : String} {value : Json} {members : List (Option String × Json)}
    (absent : ∀ m ∈ members, m.1 ≠ some tag) :
    choice? tag (.object (member tag value :: members)) = some (value, .object members) := by
  have values : valuesOf tag (member tag value :: members) = [value] := by
    have others : members.filter (fun m => m.1 = some tag) = [] :=
      List.filter_eq_nil_iff.mpr fun m mem => by simpa using absent m mem
    rw [valuesOf, List.filter_cons_of_pos (by simp), others]
    rfl
  have rest : (member tag value :: members).filter (fun m => m.1 ≠ some tag) = members := by
    rw [List.filter_cons_of_neg (by simp), List.filter_eq_self]
    exact fun m mem => by simpa using absent m mem
  rw [choice?, values, rest]

end Backplane.Json
