import Mathlib
import Backplane.Json.Token
import Backplane.Proofs.Text.Numeral

/-!
# Numbers in JSON

A text that is a number has no character that would end it before its end
(`numeric_of_readNumber`). The integers that are written are read back as they are, and those of
at most 64 bits lie within the range of a double.
-/

namespace Backplane.Json

/-! ## The characters of a number -/

/-- The characters that numbers consist of. -/
def IsNumeric (c : Char) : Prop :=
  c.isDigit = true ∨ c = '-' ∨ c = '+' ∨ c = '.' ∨ c = 'e' ∨ c = 'E'

instance (c : Char) : Decidable (IsNumeric c) :=
  inferInstanceAs (Decidable (_ ∨ _))

/-- The characters that end a word. -/
def wordEnds : List Char := [' ', '\t', '\n', '\r', '"', '\x7b', '\x7d', '[', ']', ':', ',']

theorem mem_wordEnds {c : Char} (ends : Token.Reader.endsWord c = true) : c ∈ wordEnds := by
  unfold Token.Reader.endsWord Token.isGap Token.ofMark at ends
  unfold wordEnds
  split at ends
  all_goals simp_all [or_assoc]

/-- A number goes on up to its last character. -/
theorem IsNumeric.not_endsWord {c : Char} (numeric : IsNumeric c) :
    Token.Reader.endsWord c = false := by
  rw [Bool.eq_false_iff]
  intro ends
  have apart : (wordEnds.all fun d => !decide (IsNumeric d)) = true := by decide
  have other := List.all_eq_true.mp apart c (mem_wordEnds ends)
  rw [decide_eq_true numeric] at other
  cases other

/-- A run of digits and what follows it make up the whole. -/
theorem spanDigits_append (cs : List Char) : (spanDigits cs).1 ++ (spanDigits cs).2 = cs := by
  rw [spanDigits, List.span_eq_takeWhile_dropWhile]
  exact List.takeWhile_append_dropWhile

theorem digit_of_mem_spanDigits {cs : List Char} {c : Char} (mem : c ∈ (spanDigits cs).1) :
    c.isDigit = true := by
  rw [spanDigits, List.span_eq_takeWhile_dropWhile] at mem
  exact List.mem_takeWhile_imp mem

theorem numeric_of_readExponent {cs : List Char} {e : Option (Bool × List Char)}
    (read : readExponent cs = some e) : ∀ c ∈ cs, IsNumeric c := by
  cases cs with
  | nil => nofun
  | cons mark ds =>
    have signed : ∀ {negative : Bool} {ds : List Char},
        (if ds ≠ [] ∧ ds.all Char.isDigit then some (some (negative, ds)) else none) = some e →
          ∀ c ∈ ds, IsNumeric c := by
      intro negative ds read c mem
      split at read
      · rename_i digits
        exact .inl (List.all_eq_true.mp digits.2 c mem)
      · cases read
    unfold readExponent at read
    dsimp only at read
    split at read
    · rename_i exponent
      rw [List.forall_mem_cons]
      refine ⟨by rcases exponent with rfl | rfl <;> simp [IsNumeric], ?_⟩
      split at read
      · rw [List.forall_mem_cons]
        exact ⟨.inr (.inl rfl), signed read⟩
      · rw [List.forall_mem_cons]
        exact ⟨.inr (.inr (.inl rfl)), signed read⟩
      · exact signed read
    · cases read

/-- All characters of a number are such that numbers consist of. -/
theorem numeric_of_readNumber {cs : List Char} {n : NumberParts} (read : readNumber cs = some n) :
    ∀ c ∈ cs, IsNumeric c := by
  -- A sign in front aside, all characters are in the rest.
  suffices tail : ∀ c ∈ (if cs.head? = some '-' then cs.drop 1 else cs), IsNumeric c by
    split at tail
    · rename_i sign
      cases cs with
      | nil => nofun
      | cons c cs => exact List.forall_mem_cons.mpr ⟨.inr (.inl (Option.some.inj sign)), tail⟩
    · exact tail
  rw [readNumber] at read
  generalize (if cs.head? = some '-' then cs.drop 1 else cs) = body at read ⊢
  have whole := spanDigits_append body
  generalize split : spanDigits body = parts at read whole
  obtain ⟨digits, rest⟩ := parts
  have digits_numeric : ∀ c ∈ digits, IsNumeric c := fun c mem =>
    .inl (digit_of_mem_spanDigits (by rwa [split]))
  simp only at read whole
  rw [← whole, List.forall_mem_append]
  refine ⟨digits_numeric, ?_⟩
  split at read
  · cases read
  split at read
  · rename_i after
    split at read
    · cases read
    · obtain ⟨exponent, ends, -⟩ := Option.bind_eq_some_iff.mp read
      rw [List.forall_mem_cons, ← spanDigits_append after, List.forall_mem_append]
      exact ⟨.inr (.inr (.inr (.inl rfl))), fun c mem => .inl (digit_of_mem_spanDigits mem),
        numeric_of_readExponent ends⟩
  · obtain ⟨exponent, ends, -⟩ := Option.bind_eq_some_iff.mp read
    exact numeric_of_readExponent ends

/-! ## Integers -/

theorem spanDigits_digits {ds : List Char} (digits : ∀ c ∈ ds, c.isDigit = true) :
    spanDigits ds = (ds, []) := by
  rw [spanDigits, List.span_eq_takeWhile_dropWhile, List.takeWhile_eq_self_iff.mpr digits,
    List.dropWhile_eq_nil_iff.mpr digits]

/-- The parts of an integer as it is written. -/
def integerParts (i : Int) : NumberParts := ⟨i < 0, Nat.toDigits 10 i.natAbs, [], none⟩

theorem readNumber_signed (i : Int) :
    readNumber (Numeral.signed i).toList = some (integerParts i) := by
  have digits := spanDigits_digits fun c (mem : c ∈ Nat.toDigits 10 i.natAbs) =>
    Numeral.isDigit_decimal mem
  have leading : ¬ (Nat.toDigits 10 i.natAbs = [] ∨ (Nat.toDigits 10 i.natAbs).head? = some '0' ∧
      (Nat.toDigits 10 i.natAbs).length ≠ 1) := by
    rintro (empty | ⟨zero, long⟩)
    · exact Nat.toDigits_ne_nil empty
    · exact long (Numeral.length_toDigits_of_head zero)
  by_cases negative : i < 0
  · have written : (Numeral.signed i).toList = '-' :: Nat.toDigits 10 i.natAbs := by
      have sign : "-".toList = ['-'] := rfl
      rw [Numeral.signed, if_pos negative, String.toList_append, sign, List.singleton_append,
        Numeral.decimal, String.toList_ofList]
    rw [written, readNumber]
    simp only [List.head?_cons, if_true, List.drop_one, List.tail_cons, digits, if_neg leading]
    simp [readExponent, integerParts, negative]
  · have written : (Numeral.signed i).toList = Nat.toDigits 10 i.natAbs := by
      rw [Numeral.signed, if_neg negative, Numeral.decimal, String.toList_ofList]
    have unsigned : (Nat.toDigits 10 i.natAbs).head? ≠ some '-' := by
      intro sign
      cases Numeral.isDigit_decimal (List.mem_of_head? sign)
    rw [written, readNumber]
    simp only [if_neg unsigned, digits, if_neg leading]
    simp [readExponent, integerParts, negative, unsigned]

/-- An integer is read back as it is. -/
theorem integer?_ofInt (i : Int) : (ofInt i).integer? = some i := by
  have value := Numeral.readDigits_toDigits (by decide : 1 < 10) (by decide) i.natAbs
  have parts : (ofInt i).integer? = (integerParts i).integer? := by
    rw [ofInt, integer?, readNumber_signed, Option.bind_some]
  rw [parts, NumberParts.integer?, integerParts]
  simp only [value, ne_eq, not_true_eq_false, Option.isSome_none, Bool.false_eq_true, or_self,
    if_false, decide_eq_true_eq]
  by_cases negative : i < 0
  · rw [if_pos negative, if_neg (by omega)]
    exact congrArg some (by omega)
  · rw [if_neg negative]
    exact congrArg some (by omega)

theorem ofNat_eq (n : Nat) : ofNat n = ofInt n := by
  rw [ofNat, ofInt, Numeral.signed, if_neg (by omega), Int.natAbs_natCast]

theorem isFinite_integerParts {i : Int} (lt : i.natAbs < 10 ^ 20) :
    (integerParts i).isFinite = true := by
  have short := (Nat.length_toDigits_le_iff (by decide) (by decide)).mpr lt
  have fewer := List.length_dropWhile_le (· = '0') (Nat.toDigits 10 i.natAbs)
  refine if_pos (.inr ?_)
  simp only [integerParts, NumberParts.scale, List.append_nil, List.length_nil]
  omega

/-- An integer can be kept whole. -/
theorem isSound_ofInt {i : Int} (room : Nat) (lt : i.natAbs < 10 ^ 20) :
    (ofInt i).isSound room = true := by
  rw [ofInt, isSound, readNumber_signed]
  exact isFinite_integerParts lt

end Backplane.Json
