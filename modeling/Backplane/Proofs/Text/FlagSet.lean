import Mathlib
import Backplane.Page.Perms
import Backplane.Proofs.Text.Numeral
import Backplane.Target.Caps

/-!
# Sets of flags read back

The text of a set of flags is read as that set, with or without bits that have no name, if the
names are such that no text is mistaken for another (`WellFormed`). The parts of a text have
no bars or blanks in them, so that splitting at the bars and trimming gives the parts back
(`splitAt_intercalate`), and the named and unnamed bits make up the set (`named_or_unnamed`).
-/

namespace Backplane

/-- Items that are each read back are read back together. -/
theorem mapM_map_of_eq {α β γ : Type} {f : β → Option γ} {g : α → β} {h : α → γ} {xs : List α}
    (each : ∀ x ∈ xs, f (g x) = some (h x)) : (xs.map g).mapM f = some (xs.map h) := by
  induction xs with
  | nil => rfl
  | cons x xs ih =>
    obtain ⟨first, rest⟩ := List.forall_mem_cons.mp each
    rw [List.map_cons, List.mapM_cons, first, ih rest]
    rfl

/-- An item that has a property of its own is found by it. -/
theorem find?_of_inj {α β : Type} [DecidableEq β] {f : α → β} {xs : List α} {x : α} (mem : x ∈ xs)
    (inj : ∀ y ∈ xs, f y = f x → y = x) : (xs.find? fun y => f y = f x) = some x := by
  cases found : xs.find? fun y => f y = f x with
  | none =>
    have absent := List.find?_eq_none.mp found x mem
    simp at absent
  | some y =>
    have same : f y = f x := by simpa using List.find?_some found
    rw [inj y (List.mem_of_find?_eq_some found) same]

namespace FlagSet

/-! ## Parts of a text -/

/-- Characters without a bar or a blank among them. -/
structure IsPart (cs : List Char) : Prop where
  solid : ∀ c ∈ cs, Blank.isBlank c = false ∧ c ≠ '|'
  ne_nil : cs ≠ []

instance (cs : List Char) : Decidable (IsPart cs) :=
  decidable_of_iff ((cs.all fun c => !Blank.isBlank c && c != '|') = true ∧ cs ≠ [])
    ⟨fun ⟨solid, ne⟩ => ⟨by simpa using solid, ne⟩,
      fun part => ⟨by simpa using part.solid, part.ne_nil⟩⟩

theorem dropWhile_blank {cs : List Char} (part : IsPart cs) (rest : List Char) :
    (cs ++ rest).dropWhile Blank.isBlank = cs ++ rest := by
  cases cs with
  | nil => exact absurd rfl part.ne_nil
  | cons c cs =>
    rw [List.cons_append, List.dropWhile_cons_of_neg]
    rw [(part.solid c List.mem_cons_self).1]
    exact Bool.false_ne_true

theorem IsPart.reverse {cs : List Char} (part : IsPart cs) : IsPart cs.reverse where
  solid c mem := part.solid c (List.mem_reverse.mp mem)
  ne_nil := fun eq => part.ne_nil (List.reverse_eq_nil_iff.mp eq)

/-- Trimming takes away the blanks around a part and nothing of the part. -/
theorem trim_part {ls rs cs : List Char} (part : IsPart cs)
    (blank : ∀ c ∈ ls, Blank.isBlank c = true) (blank' : ∀ c ∈ rs, Blank.isBlank c = true) :
    Blank.trim (ls ++ (cs ++ rs)) = cs := by
  have same := dropWhile_blank part.reverse []
  rw [List.append_nil] at same
  rw [Blank.trim, List.dropWhile_append_of_pos blank, dropWhile_blank part, List.reverse_append,
    List.dropWhile_append_of_pos fun c mem => blank' c (List.mem_reverse.mp mem), same,
    List.reverse_reverse]

theorem splitAt_append (sep : Char) {cs : List Char} (rest : List Char) (free : sep ∉ cs) :
    splitAt sep (cs ++ sep :: rest) = cs :: splitAt sep rest := by
  induction cs with
  | nil => exact if_pos rfl
  | cons c cs ih =>
    simp only [List.mem_cons, not_or] at free
    rw [List.cons_append, splitAt, if_neg (Ne.symm free.1), ih free.2]

theorem splitAt_of_not_mem (sep : Char) {cs : List Char} (free : sep ∉ cs) :
    splitAt sep cs = [cs] := by
  induction cs with
  | nil => rfl
  | cons c cs ih =>
    simp only [List.mem_cons, not_or] at free
    rw [splitAt, if_neg (Ne.symm free.1), ih free.2]

/-- The marks between the parts of a text. -/
def bar : List Char := [' ', '|', ' ']

theorem blank_of_space {ls : List Char} (spaces : ∀ c ∈ ls, c = ' ') :
    ∀ c ∈ ls, Blank.isBlank c = true := by
  intro c mem
  rw [spaces c mem]
  decide

/-- Joined parts begin and end with a part. -/
theorem intercalate_ends {p : List Char} {ps : List (List Char)} (parts : ∀ q ∈ p :: ps, IsPart q) :
    ∃ ls rs q, IsPart q ∧ bar.intercalate (p :: ps) = p ++ rs ∧
      bar.intercalate (p :: ps) = ls ++ q := by
  induction ps generalizing p with
  | nil =>
    have single := @List.intercalate_singleton _ bar p
    exact ⟨[], [], p, parts p List.mem_cons_self, by rw [single, List.append_nil], single⟩
  | cons q qs ih =>
    obtain ⟨ls, rs, last, part, -, ends⟩ := ih (List.forall_mem_cons.mp parts).2
    rw [List.intercalate_cons_cons]
    refine ⟨p ++ bar ++ ls, _, last, part, List.append_assoc .., ?_⟩
    rw [ends, List.append_assoc, List.append_assoc, List.append_assoc]

/-- Nothing is trimmed from joined parts. -/
theorem trim_intercalate {p : List Char} {ps : List (List Char)}
    (parts : ∀ q ∈ p :: ps, IsPart q) :
    Blank.trim (bar.intercalate (p :: ps)) = bar.intercalate (p :: ps) := by
  obtain ⟨ls, rs, q, part, begins, ends⟩ := intercalate_ends parts
  rw [Blank.trim, begins, dropWhile_blank (List.forall_mem_cons.mp parts).1, ← begins, ends,
    List.reverse_append, dropWhile_blank part.reverse, ← List.reverse_append, List.reverse_reverse]

/-- Neither a part nor the blanks before it have a bar. -/
theorem bar_not_mem {ls p : List Char} (spaces : ∀ c ∈ ls, c = ' ') (part : IsPart p) :
    '|' ∉ ls ++ p := by
  intro mem
  rcases List.mem_append.mp mem with mem | mem
  · exact absurd (spaces _ mem) (by decide)
  · exact (part.solid _ mem).2 rfl

/-- Parts that are joined by bars are found again between the bars. -/
theorem splitAt_intercalate {ls p : List Char} {ps : List (List Char)} (spaces : ∀ c ∈ ls, c = ' ')
    (parts : ∀ q ∈ p :: ps, IsPart q) :
    (splitAt '|' (ls ++ bar.intercalate (p :: ps))).map Blank.trim = p :: ps := by
  induction ps generalizing ls p with
  | nil =>
    have part := parts p List.mem_cons_self
    have trimmed : Blank.trim (ls ++ (p ++ [])) = p := trim_part part (blank_of_space spaces) nofun
    rw [List.append_nil] at trimmed
    rw [List.intercalate_singleton, splitAt_of_not_mem '|' (bar_not_mem spaces part),
      List.map_singleton, trimmed]
  | cons q qs ih =>
    obtain ⟨part, rest⟩ := List.forall_mem_cons.mp parts
    have single : ∀ c ∈ [' '], c = ' ' := fun c mem => List.mem_singleton.mp mem
    have split : ls ++ bar.intercalate (p :: q :: qs) =
        (ls ++ p ++ [' ']) ++ '|' :: ([' '] ++ bar.intercalate (q :: qs)) := by
      rw [List.intercalate_cons_cons, bar]
      simp only [List.append_assoc, List.cons_append, List.nil_append]
    have free : '|' ∉ ls ++ p ++ [' '] := by
      intro mem
      rcases List.mem_append.mp mem with mem | mem
      · exact bar_not_mem spaces part mem
      · exact absurd (single _ mem) (by decide)
    have trimmed : Blank.trim (ls ++ p ++ [' ']) = p := by
      rw [List.append_assoc]
      exact trim_part part (blank_of_space spaces) (blank_of_space single)
    rw [split, splitAt_append '|' _ free, List.map_cons, ih single rest, trimmed]

/-! ## Names -/

/-- Names that can be told from each other and from a number, each for a bit of its own. -/
structure WellFormed (names : Names) : Prop where
  part : ∀ flag ∈ names, IsPart flag.1.toList
  plain : ∀ flag ∈ names, flag.1.toList.head? ≠ some '0'
  distinct : (names.map Prod.fst).Nodup
  single : ∀ flag ∈ names, ∃ i < 8, flag.2.toBitVec = BitVec.twoPow 8 i

instance (names : Names) : Decidable (WellFormed names) :=
  decidable_of_iff ((∀ flag ∈ names, IsPart flag.1.toList) ∧
      (∀ flag ∈ names, flag.1.toList.head? ≠ some '0') ∧ (names.map Prod.fst).Nodup ∧
      ∀ flag ∈ names, ∃ i < 8, flag.2.toBitVec = BitVec.twoPow 8 i)
    ⟨fun ⟨part, plain, distinct, single⟩ => ⟨part, plain, distinct, single⟩,
      fun wf => ⟨wf.part, wf.plain, wf.distinct, wf.single⟩⟩

/-- A single bit is in a set or it is not. -/
theorem and_single {flag : UInt8} (single : ∃ i < 8, flag.toBitVec = BitVec.twoPow 8 i)
    (bits : UInt8) :
    bits &&& flag = flag ∨ bits &&& flag = 0 := by
  obtain ⟨i, -, power⟩ := single
  have masked := BitVec.and_twoPow bits.toBitVec i
  rw [← power, ← UInt8.toBitVec_and] at masked
  split at masked
  · exact .inl (UInt8.toBitVec_inj.mp masked)
  · exact .inr (UInt8.toBitVec_inj.mp masked)

/-- The named and the unnamed bits make up the set. -/
theorem named_or_unnamed (bits mask : UInt8) : bits &&& mask ||| bits &&& ~~~mask = bits := by
  refine UInt8.toBitVec_inj.mp (BitVec.eq_of_getElem_eq fun i lt => ?_)
  simp only [UInt8.toBitVec_or, UInt8.toBitVec_and, UInt8.toBitVec_not, BitVec.getElem_or,
    BitVec.getElem_and, BitVec.getElem_not]
  cases bits.toBitVec[i] with
  | true => cases mask.toBitVec[i] <;> rfl
  | false => rfl

/-- The flags of a set that are named, put together. -/
theorem foldl_named {names : Names}
    (single : ∀ flag ∈ names, ∃ i < 8, flag.2.toBitVec = BitVec.twoPow 8 i) (bits mask : UInt8) :
    ((names.filter fun flag => bits &&& flag.2 = flag.2).map Prod.snd).foldl (· ||| ·)
        (bits &&& mask) =
      bits &&& names.foldl (fun bits flag => bits ||| flag.2) mask := by
  induction names generalizing mask with
  | nil => rfl
  | cons flag names ih =>
    obtain ⟨here, rest⟩ := List.forall_mem_cons.mp single
    have distrib : bits &&& (mask ||| flag.2) = bits &&& mask ||| bits &&& flag.2 :=
      UInt8.toBitVec_inj.mp BitVec.and_or_distrib_left
    rw [List.foldl_cons, ← ih rest, distrib]
    by_cases set : bits &&& flag.2 = flag.2
    · rw [List.filter_cons_of_pos (by simpa using set), List.map_cons, List.foldl_cons, set]
    · have unset := (and_single here bits).resolve_left set
      rw [List.filter_cons_of_neg (by simpa using set), unset, UInt8.or_zero]

variable {names : Names}

/-- A name is read as its bit. -/
theorem readPart_name (wf : WellFormed names) {flag : String × UInt8} (mem : flag ∈ names) :
    readPart names flag.1.toList = some flag.2 := by
  have found := find?_of_inj (f := fun other : String × UInt8 => other.1.toList) mem
    fun other mem' same => List.inj_on_of_nodup_map wf.distinct mem' mem (String.toList_inj.mp same)
  unfold readPart
  split
  · rename_i empty
    exact absurd empty (wf.part flag mem).ne_nil
  · rename_i digits number
    exact absurd (congrArg List.head? number) (wf.plain flag mem)
  · rw [found]
    rfl

/-- A number is read as the bits it writes. -/
theorem readPart_number (names : Names) (bits : UInt8) :
    readPart names ("0x" ++ Numeral.hexLower bits.toNat).toList = some bits := by
  have digits : Numeral.readUnsigned 16 256 (Numeral.hexLower bits.toNat).toList =
      some bits.toNat := by
    rw [Numeral.hexLower, String.toList_ofList]
    exact Numeral.readUnsigned_toDigits bits.toNat_lt
  rw [String.toList_append]
  change (Numeral.readUnsigned 16 256 (Numeral.hexLower bits.toNat).toList).map Nat.toUInt8 =
    some bits
  rw [digits, Option.map_some, Nat.toUInt8, UInt8.ofNat_toNat]

/-- The bits that the parts of the text of a set stand for. -/
def flags (names : Names) (bits : UInt8) : List UInt8 :=
  (names.filter fun flag => bits &&& flag.2 = flag.2).map Prod.snd ++
    if bits &&& ~~~known names = 0 then [] else [bits &&& ~~~known names]

/-- These bits make up the set. -/
theorem foldl_flags (wf : WellFormed names) (bits : UInt8) :
    (flags names bits).foldl (· ||| ·) 0 = bits := by
  have named := foldl_named wf.single bits 0
  have whole := named_or_unnamed bits (known names)
  rw [UInt8.and_zero] at named
  rw [flags, List.foldl_append, named]
  split
  · rename_i none
    rw [none, UInt8.or_zero] at whole
    exact whole
  · exact whole

/-- The parts of the text of a set are read as its bits. -/
theorem readParts (wf : WellFormed names) (bits : UInt8) :
    ((parts names bits).map String.toList).mapM (readPart names) = some (flags names bits) := by
  have named : (((names.filter fun flag => bits &&& flag.2 = flag.2).map Prod.fst).map
      String.toList).mapM (readPart names) =
        some ((names.filter fun flag => bits &&& flag.2 = flag.2).map Prod.snd) := by
    rw [List.map_map]
    exact mapM_map_of_eq fun flag mem => readPart_name wf (List.mem_of_mem_filter mem)
  rw [parts, List.map_append, List.mapM_append, named, flags]
  split
  · rfl
  · rw [List.map_singleton, List.mapM_cons, readPart_number]
    rfl

/-- A number is a part. -/
theorem isPart_number (n : Nat) : IsPart ("0x" ++ Numeral.hexLower n).toList where
  solid c mem := by
    have digit : ∀ d < 16, Blank.isBlank (Nat.digitChar d) = false ∧ Nat.digitChar d ≠ '|' := by
      decide
    have begin : "0x".toList = ['0', 'x'] := rfl
    rw [String.toList_append, begin, List.mem_append, Numeral.hexLower, String.toList_ofList] at mem
    rcases mem with mem | mem
    · exact (by decide : IsPart ['0', 'x']).solid c mem
    · obtain ⟨d, lt, rfl⟩ := Numeral.exists_digitChar (by decide : 1 < 16) mem
      exact digit d lt
  ne_nil := by
    rw [String.toList_append]
    exact List.cons_ne_nil _ _

theorem isPart_parts (wf : WellFormed names) (bits : UInt8) :
    ∀ part ∈ (parts names bits).map String.toList, IsPart part := by
  intro part mem
  obtain ⟨text, written, rfl⟩ := List.mem_map.mp mem
  rcases List.mem_append.mp written with mem | mem
  · obtain ⟨flag, set, rfl⟩ := List.mem_map.mp mem
    exact wf.part flag (List.mem_of_mem_filter set)
  · split at mem
    · cases mem
    · rw [List.mem_singleton.mp mem]
      exact isPart_number _

/-- The text of a set is read as that set. -/
theorem read?_text (wf : WellFormed names) (bits : UInt8) :
    read? names (text names bits) = some bits := by
  have union := foldl_flags wf bits
  have read := readParts wf bits
  have solid := isPart_parts wf bits
  have source : (text names bits).toList =
      bar.intercalate ((parts names bits).map String.toList) := by
    rw [text, String.toList_intercalate]
    rfl
  rw [read?, source]
  cases written : (parts names bits).map String.toList with
  | nil =>
    rw [written] at read
    rw [← Option.some.inj read] at union
    exact congrArg some union
  | cons part others =>
    rw [written] at read solid
    have split : (splitAt '|' ([] ++ bar.intercalate (part :: others))).map Blank.trim =
        part :: others := splitAt_intercalate (fun _ mem => absurd mem List.not_mem_nil) solid
    rw [List.nil_append] at split
    rw [trim_intercalate solid]
    split
    · rename_i empty
      obtain ⟨-, rs, -, -, begins, -⟩ := intercalate_ends solid
      rw [begins, List.append_eq_nil_iff] at empty
      exact absurd empty.1 (solid part List.mem_cons_self).ne_nil
    · rw [← split, List.mapM_map] at read
      exact (congrArg _ read).trans (congrArg some union)

end FlagSet

/-! ## Permissions and capabilities -/

theorem Perms.wellFormed_names : FlagSet.WellFormed names := by decide

theorem Caps.wellFormed_names : FlagSet.WellFormed names := by decide

/-- The text of permissions is read as these permissions. -/
@[simp] theorem Perms.read?_text (p : Perms) : read? p.text = some p := by
  rw [read?, text, FlagSet.read?_text wellFormed_names]
  rfl

/-- The text of capabilities is read as these capabilities. -/
@[simp] theorem Caps.read?_text (c : Caps) : read? c.text = some c := by
  rw [read?, text, FlagSet.read?_text wellFormed_names]
  rfl

end Backplane
