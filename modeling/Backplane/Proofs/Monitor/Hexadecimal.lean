import Mathlib
import Backplane.Monitor.Command
import Backplane.Proofs.Text.Digits

/-!
# Hexadecimal words

A word is a hexadecimal number if it is digits after at most one mark (`IsHex`). Such
words are read for what they write. Nothing else is, but for one thing: the reader of
unsigned numerals passes over a plus sign, so a number whose digits have one in front is
read too, though it is no number by the rules of the monitor (`IsSignedHex`).

The main statement is `parseHex_eq_iff`.
-/

namespace Backplane.Command

open Numeral

/-- What may mark a number as hexadecimal. -/
def hexMarks : List (List Char) := [[], ['$'], ['0', 'x'], ['0', 'X']]

/-- At most one mark, and digits that write `n`. -/
def IsHex (n : Nat) (word : String) : Prop :=
  ∃ mark ∈ hexMarks, ∃ digits, word.toList = mark ++ digits ∧ Writes 16 n digits

/-- At most one mark, a plus sign, and digits that write `n`. -/
def IsSignedHex (n : Nat) (word : String) : Prop :=
  ∃ mark ∈ hexMarks, ∃ digits, word.toList = mark ++ '+' :: digits ∧ Writes 16 n digits

variable {n : Nat} {word : String}

/-! ## Marks -/

/-- A mark is all that is taken off. -/
theorem exists_mark (cs : List Char) : ∃ mark ∈ hexMarks, cs = mark ++ hexDigitsOf cs := by
  unfold hexDigitsOf
  split
  · exact ⟨['$'], by decide, rfl⟩
  · exact ⟨['0', 'x'], by decide, rfl⟩
  · exact ⟨['0', 'X'], by decide, rfl⟩
  · exact ⟨[], by decide, rfl⟩

/-- Only one mark is taken off, and nothing of what is no mark. -/
theorem hexDigitsOf_append {mark cs : List Char} (marks : mark ∈ hexMarks)
    (plain : List.Disjoint ['$', 'x', 'X'] cs) : hexDigitsOf (mark ++ cs) = cs := by
  simp only [hexMarks, List.mem_cons, List.not_mem_nil, or_false] at marks
  rcases marks with rfl | rfl | rfl | rfl
  · rw [List.nil_append]
    unfold hexDigitsOf
    split
    · exact absurd List.mem_cons_self (plain (by simp))
    · exact absurd (by simp) (plain (a := 'x') (by simp))
    · exact absurd (by simp) (plain (a := 'X') (by simp))
    · rfl
  · rfl
  · rfl
  · rfl

/-- No digit is part of a mark. -/
theorem plain_of_writes {digits : List Char} (writes : Writes 16 n digits) :
    List.Disjoint ['$', 'x', 'X'] digits := by
  have plain : List.Disjoint ['$', 'x', 'X'] alphabet := by
    simp only [List.disjoint_cons_left, List.disjoint_nil_left]
    decide
  exact fun c marks mem => plain marks (writes.mem_alphabet (Nat.le_refl 16) c mem)

theorem plain_of_signed {digits : List Char} (writes : Writes 16 n digits) :
    List.Disjoint ['$', 'x', 'X'] ('+' :: digits) :=
  List.disjoint_cons_right.mpr ⟨by decide, plain_of_writes writes⟩

/-! ## Reading -/

theorem isHex_iff : IsHex n word ↔ Writes 16 n (hexDigitsOf word.toList) := by
  constructor
  · rintro ⟨mark, marks, digits, spelled, writes⟩
    rwa [spelled, hexDigitsOf_append marks (plain_of_writes writes)]
  · intro writes
    obtain ⟨mark, marks, spelled⟩ := exists_mark word.toList
    exact ⟨mark, marks, _, spelled, writes⟩

theorem isSignedHex_iff :
    IsSignedHex n word ↔
      ∃ digits, hexDigitsOf word.toList = '+' :: digits ∧ Writes 16 n digits := by
  constructor
  · rintro ⟨mark, marks, digits, spelled, writes⟩
    refine ⟨digits, ?_, writes⟩
    rw [spelled, hexDigitsOf_append marks (plain_of_signed writes)]
  · rintro ⟨digits, rest, writes⟩
    obtain ⟨mark, marks, spelled⟩ := exists_mark word.toList
    exact ⟨mark, marks, digits, rest ▸ spelled, writes⟩

/-- A number has no sign in front of its digits. -/
theorem IsHex.not_signed (hex : IsHex n word) {n' : Nat} : ¬IsSignedHex n' word := by
  intro signed
  obtain ⟨digits, rest, -⟩ := isSignedHex_iff.mp signed
  have writes := isHex_iff.mp hex
  rw [rest] at writes
  exact not_writes_plus (Nat.le_refl 16) writes

theorem hexBelow_eq_ok_iff {bound : Nat} :
    hexBelow bound word = .ok n ↔ n < bound ∧ (IsHex n word ∨ IsSignedHex n word) := by
  rw [isHex_iff, isSignedHex_iff, ← readUnsigned_eq_some_iff (Nat.le_refl 16), hexBelow]
  cases readUnsigned 16 bound (hexDigitsOf word.toList) with
  | none => exact iff_of_false nofun nofun
  | some m => rw [Except.ok.injEq, Option.some.injEq]

/-- Reading fails for no other reason than that a word is no number. -/
theorem hexBelow_error {bound : Nat} {e : CommandError} (failed : hexBelow bound word = .error e) :
    e = .invalidNumber word := by
  unfold hexBelow at failed
  split at failed <;> cases failed
  rfl

/-- The numbers below the bound are those of a machine word, read as such. -/
theorem map_hexBelow_eq_ok_iff {α : Type} {bound : Nat} {ofNat : Nat → α} {toNat : α → Nat}
    (below : ∀ a, toNat a < bound) (back : ∀ a, ofNat (toNat a) = a)
    (forth : ∀ n < bound, toNat (ofNat n) = n) {a : α} :
    (hexBelow bound word).map ofNat = .ok a ↔
      IsHex (toNat a) word ∨ IsSignedHex (toNat a) word := by
  have read : hexBelow bound word = .ok (toNat a) ↔ _ := hexBelow_eq_ok_iff
  rw [and_iff_right (below a)] at read
  rw [← read]
  cases found : hexBelow bound word with
  | error e => exact iff_of_false nofun nofun
  | ok m =>
    rw [Except.map, Except.ok.injEq, Except.ok.injEq]
    constructor
    · rintro rfl
      exact (forth m (hexBelow_eq_ok_iff.mp found).1).symm
    · rintro rfl
      exact back a

theorem parseHex_eq_ok_iff {n : UInt32} :
    parseHex word = .ok n ↔ IsHex n.toNat word ∨ IsSignedHex n.toNat word :=
  map_hexBelow_eq_ok_iff UInt32.toNat_lt (fun _ => UInt32.ofNat_toNat)
    fun _ below => UInt32.toNat_ofNat_of_lt' below

theorem parseByte_eq_ok_iff {n : UInt8} :
    parseByte word = .ok n ↔ IsHex n.toNat word ∨ IsSignedHex n.toNat word :=
  map_hexBelow_eq_ok_iff UInt8.toNat_lt (fun _ => UInt8.ofNat_toNat)
    fun _ below => UInt8.toNat_ofNat_of_lt' below

theorem parseHex_error {e : CommandError} (failed : parseHex word = .error e) :
    e = .invalidNumber word := by
  unfold parseHex at failed
  cases found : hexBelow UInt32.size word with
  | ok m =>
    rw [found] at failed
    cases failed
  | error cause =>
    rw [found] at failed
    cases failed
    exact hexBelow_error found

/-- A word is read as a number exactly if it is digits that write it after at most one
mark, or such digits with a plus sign in front, and refused as no number otherwise. So the
rule that it be digits after at most one mark decides about just the words that have no
such sign. -/
theorem parseHex_eq_iff (word : String) :
    (∀ n, parseHex word = .ok n ↔ IsHex n.toNat word ∨ IsSignedHex n.toNat word) ∧
    (∀ e, parseHex word = .error e ↔ e = .invalidNumber word ∧
      ∀ n : UInt32, ¬IsHex n.toNat word ∧ ¬IsSignedHex n.toNat word) ∧
    ((∀ n, parseHex word = .ok n ↔ IsHex n.toNat word) ↔
      ¬∃ n : UInt32, IsSignedHex n.toNat word) := by
  have accepted (n : UInt32) : parseHex word = .ok n ↔ _ := parseHex_eq_ok_iff
  refine ⟨accepted, fun e => ⟨fun failed => ⟨parseHex_error failed, fun n => ?_⟩, ?_⟩, ?_⟩
  · rw [← not_or, ← accepted n, failed]
    exact nofun
  · rintro ⟨rfl, never⟩
    cases found : parseHex word with
    | ok n => exact absurd ((accepted n).mp found) (not_or.mpr (never n))
    | error cause => rw [parseHex_error found]
  · constructor
    · rintro ruled ⟨n, signed⟩
      exact ((ruled n).mp ((accepted n).mpr (.inr signed))).not_signed signed
    · intro unsigned n
      rw [accepted n]
      exact or_iff_left fun signed => unsigned ⟨n, signed⟩

/-- A plus sign is passed over, with a mark in front and without. -/
theorem plus_sign_accepted :
    parseHex "+12" = .ok 0x12 ∧ parseHex "0x+12" = .ok 0x12 ∧
      ∀ n, ¬IsHex n "+12" ∧ ¬IsHex n "0x+12" := by
  have one : Stands 16 1 '1' := by decide
  have two : Stands 16 2 '2' := by decide
  have digits : Writes 16 0x12 ['1', '2'] := .more (.one one) two
  have bare : IsSignedHex 0x12 "+12" := ⟨[], by decide, _, rfl, digits⟩
  have marked : IsSignedHex 0x12 "0x+12" := ⟨['0', 'x'], by decide, _, rfl, digits⟩
  refine ⟨parseHex_eq_ok_iff.mpr (.inr bare), parseHex_eq_ok_iff.mpr (.inr marked), fun n => ?_⟩
  exact ⟨fun hex => hex.not_signed bare, fun hex => hex.not_signed marked⟩

end Backplane.Command
