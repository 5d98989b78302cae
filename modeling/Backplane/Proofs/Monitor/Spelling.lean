import Mathlib
import Backplane.Proofs.Monitor.Composition
import Backplane.Proofs.Monitor.Hexadecimal
import Backplane.Proofs.Text.Words

/-!
# Spellings of commands

A command is told by many lines (`Command.Tells`): its verb may be shortened, letters may
be of either case, numbers are written in several ways, a last argument that is usual may
be left out, and words may be set apart by any blanks. All of these lines are read as that
command, and lines are read as no commands but those that are well formed.

The main statement is `parse_spelled`.
-/

namespace Backplane.Command

open Blank (IsWord Laid)
open Numeral (Writes alphabet)

/-! ## Spellings -/

/-- The command is one that a line can tell. -/
def WellFormed : Command → Prop
  | poke _ bytes => bytes ≠ []
  | read _ bits | write _ _ bits => bits = 8 ∨ bits = 16 ∨ bits = 32
  | layer name _ => IsWord name
  | trace count => count < UInt64.size
  | dump _ _ | peek _ | regions | layers | events | devices | help => True

/-- The verbs that stand for the command. -/
def verbs : Command → List String
  | dump _ _ => ["dump", "d"]
  | peek _ => ["peek"]
  | poke _ _ => ["poke"]
  | read _ _ => ["read"]
  | write _ _ _ => ["write"]
  | regions => ["regions"]
  | layers => ["layers"]
  | layer _ _ => ["layer"]
  | trace _ => ["trace"]
  | events => ["events"]
  | devices => ["devices"]
  | help => ["help", "?"]

/-- The word is this name, any of its letters made capital. -/
def InAnyCase (name word : String) : Prop :=
  List.Forall₂ (fun letter c => c = letter ∨ c = letter.toUpper) name.toList word.toList

/-- The word writes the number in decimal. -/
def IsDecimal (n : Nat) (word : String) : Prop := Writes 10 n word.toList

/-- A last argument, which may be left out if it is the usual one. -/
inductive LastArgument {α : Type} (usual : α) (spells : α → String → Prop) :
    α → List String → Prop
  /-- The argument is there. -/
  | given {a : α} {word : String} : spells a word → LastArgument usual spells a [word]
  /-- The argument is left out. -/
  | leftOut : LastArgument usual spells usual []

/-- What follows the verb of the command. Nobody reads what follows a call for help. -/
inductive Arguments : Command → List String → Prop
  | dump {start length : UInt32} {word : String} {words : List String} :
    IsHex start.toNat word →
    LastArgument standardLength (fun n => IsHex n.toNat) length words →
    Arguments (.dump start length) (word :: words)
  | peek {address : UInt32} {word : String} : IsHex address.toNat word →
    Arguments (.peek address) [word]
  | poke {address : UInt32} {bytes : List UInt8} {word : String} {words : List String} :
    IsHex address.toNat word → List.Forall₂ (fun byte => IsHex byte.toNat) bytes words →
    Arguments (.poke address bytes) (word :: words)
  | read {address : UInt32} {bits : UInt8} {word : String} {words : List String} :
    IsHex address.toNat word →
    LastArgument 8 (fun bits => IsDecimal bits.toNat) bits words →
    Arguments (.read address bits) (word :: words)
  | write {address value : UInt32} {bits : UInt8} {word word' : String} {words : List String} :
    IsHex address.toNat word → IsHex value.toNat word' →
    LastArgument 8 (fun bits => IsDecimal bits.toNat) bits words →
    Arguments (.write address value bits) (word :: word' :: words)
  | regions : Arguments .regions []
  | layers : Arguments .layers []
  | layer {name word : String} {on : Bool} : InAnyCase (if on then "on" else "off") word →
    Arguments (.layer name on) [name, word]
  | trace {count : Nat} {words : List String} : LastArgument standardCount IsDecimal count words →
    Arguments (.trace count) words
  | events : Arguments .events []
  | devices : Arguments .devices []
  | help {words : List String} : (∀ word ∈ words, IsWord word) → Arguments .help words

/-- The line tells the command: it is laid out with one of its verbs and its arguments. -/
def Tells (c : Command) (line : String) : Prop :=
  ∃ name ∈ c.verbs, ∃ verb args,
    InAnyCase name verb ∧ c.Arguments args ∧ Laid (verb :: args) line.toList

variable {c : Command} {word line : String} {args : List String}

/-! ## Names in any case -/

/-- A small letter, or a sign: no capital, and no blank. -/
def IsSmall (c : Char) : Prop :=
  c.toLower = c ∧ Blank.isBlank c = false ∧ Blank.isBlank c.toUpper = false

/-- A name of small letters. -/
def IsName (name : String) : Prop := name.toList ≠ [] ∧ name.toList.Forall IsSmall

instance : DecidablePred IsSmall := fun _ => inferInstanceAs (Decidable (_ ∧ _))

instance : DecidablePred IsName := fun _ => inferInstanceAs (Decidable (_ ∧ _))

theorem isName_verb {name : String} (mem : name ∈ c.verbs) : IsName name := by
  cases c <;> (simp only [verbs, List.mem_cons, List.not_mem_nil, or_false] at mem) <;>
    (obtain rfl | rfl := mem) <;> decide

/-- Folding undoes capitals. -/
theorem map_toLower_of_forall₂ {letters cs : List Char}
    (same : List.Forall₂ (fun letter c => c = letter ∨ c = letter.toUpper) letters cs)
    (small : letters.Forall IsSmall) : cs.map Char.toLower = letters := by
  induction same with
  | nil => rfl
  | @cons letter c letters cs first _ ih =>
    obtain ⟨⟨lower, -⟩, others⟩ := List.forall_cons _ _ _ |>.mp small
    have folded : c.toLower = letter := by
      rcases first with rfl | rfl
      · exact lower
      · rw [Char.toLower_toUpper_eq_toLower, lower]
    rw [List.map_cons, folded, ih others]

theorem folded_of_inAnyCase {name : String} (isName : IsName name) (same : InAnyCase name word) :
    folded word = name := by
  rw [folded, map_toLower_of_forall₂ same isName.2, String.ofList_toList]

/-- No letter is a blank in either case. -/
theorem solid_of_forall₂ {letters cs : List Char}
    (same : List.Forall₂ (fun letter c => c = letter ∨ c = letter.toUpper) letters cs)
    (small : letters.Forall IsSmall) : ∀ c ∈ cs, Blank.isBlank c = false := by
  induction same with
  | nil => exact fun c mem => by cases mem
  | @cons letter c letters cs first _ ih =>
    obtain ⟨⟨-, solid, capital⟩, others⟩ := List.forall_cons _ _ _ |>.mp small
    refine List.forall_mem_cons.mpr ⟨?_, ih others⟩
    rcases first with rfl | rfl
    · exact solid
    · exact capital

theorem isWord_of_inAnyCase {name : String} (isName : IsName name)
    (same : InAnyCase name word) : IsWord word := by
  refine ⟨fun empty => ?_, solid_of_forall₂ same isName.2⟩
  rw [InAnyCase, empty, List.forall₂_nil_right_iff] at same
  exact isName.1 same

/-! ## Numbers -/

/-- No digit is a blank. -/
theorem solid_of_writes {base n : Nat} {cs : List Char} (writes : Writes base n cs)
    (le : base ≤ 16) : ∀ c ∈ cs, Blank.isBlank c = false := by
  have solid : alphabet.Forall (Blank.isBlank · = false) := by decide
  exact fun c mem => List.forall_iff_forall_mem.mp solid c (writes.mem_alphabet le c mem)

theorem IsHex.isWord {n : Nat} (hex : IsHex n word) : IsWord word := by
  obtain ⟨mark, marks, digits, spelled, writes⟩ := hex
  have solid : hexMarks.Forall (·.Forall (Blank.isBlank · = false)) := by decide
  rw [IsWord, spelled]
  refine ⟨fun empty => writes.ne_nil (List.append_eq_nil_iff.mp empty).2, fun c mem => ?_⟩
  rcases List.mem_append.mp mem with mem | mem
  · exact List.forall_iff_forall_mem.mp (List.forall_iff_forall_mem.mp solid mark marks) c mem
  · exact solid_of_writes writes (Nat.le_refl 16) c mem

theorem IsDecimal.isWord {n : Nat} (decimal : IsDecimal n word) : IsWord word :=
  ⟨decimal.ne_nil, solid_of_writes decimal (by decide)⟩

theorem IsHex.parseHex_eq {n : UInt32} (hex : IsHex n.toNat word) : parseHex word = .ok n :=
  parseHex_eq_ok_iff.mpr (.inl hex)

theorem IsHex.parseByte_eq {n : UInt8} (hex : IsHex n.toNat word) : parseByte word = .ok n :=
  parseByte_eq_ok_iff.mpr (.inl hex)

theorem IsDecimal.readUnsigned_eq {n bound : Nat} (decimal : IsDecimal n word) (lt : n < bound) :
    Numeral.readUnsigned 10 bound word.toList = some n :=
  (Numeral.readUnsigned_eq_some_iff (by decide)).mpr ⟨lt, .inl decimal⟩

theorem IsDecimal.parseCount_eq {n : Nat} (decimal : IsDecimal n word) (lt : n < UInt64.size) :
    parseCount word = .ok n := by
  rw [parseCount, decimal.readUnsigned_eq lt]

theorem IsDecimal.parseBits_eq {bits : UInt8} (decimal : IsDecimal bits.toNat word)
    (sized : bits = 8 ∨ bits = 16 ∨ bits = 32) : parseBits word = .ok bits := by
  rw [parseBits, decimal.readUnsigned_eq bits.toNat_lt]
  rcases sized with rfl | rfl | rfl <;> rfl

/-! ## A last argument -/

namespace LastArgument

variable {α : Type} {usual a : α} {spells : α → String → Prop}

theorem solid (last : LastArgument usual spells a args)
    (words : ∀ {word}, spells a word → IsWord word) : ∀ word ∈ args, IsWord word := by
  cases last with
  | given spelled => exact List.forall_mem_singleton.mpr (words spelled)
  | leftOut => exact fun word mem => by cases mem

theorem length_le (last : LastArgument usual spells a args) : args.length ≤ 1 := by
  cases last with
  | given => exact Nat.le_refl 1
  | leftOut => exact Nat.zero_le 1

/-- It is read as what it spells, and as the usual one if it is left out. -/
theorem orElse_eq {parse : String → Except CommandError α}
    (last : LastArgument usual spells a args)
    (reads : ∀ {word}, spells a word → parse word = .ok a) :
    orElse usual parse args[0]? = .ok a := by
  cases last with
  | given spelled => exact reads spelled
  | leftOut => rfl

end LastArgument

/-! ## Reading a spelling -/

theorem atMost_eq {command : String} {most : Nat} (few : args.length ≤ most) :
    atMost command most args = .ok () :=
  if_neg (Nat.not_lt.mpr few)

theorem mapM_parseByte {bytes : List UInt8}
    (spelled : List.Forall₂ (fun byte => IsHex byte.toNat) bytes args) :
    args.mapM parseByte = .ok bytes := by
  induction spelled with
  | nil => rfl
  | cons hex _ ih =>
    rw [List.mapM_cons, hex.parseByte_eq, ih]
    rfl

theorem solid_of_bytes {bytes : List UInt8}
    (spelled : List.Forall₂ (fun byte => IsHex byte.toNat) bytes args) :
    ∀ word ∈ args, IsWord word := by
  induction spelled with
  | nil => exact fun word mem => by cases mem
  | cons hex _ ih => exact List.forall_mem_cons.mpr ⟨hex.isWord, ih⟩

theorem parseToggle_eq {on : Bool} (same : InAnyCase (if on then "on" else "off") word) :
    parseToggle word = .ok on := by
  have folded : folded word = if on then "on" else "off" := by
    refine folded_of_inAnyCase ?_ same
    cases on <;> decide
  rw [parseToggle, folded]
  cases on <;> rfl

section Verbs

variable {start length address value : UInt32} {bits : UInt8} {word' : String}

theorem parseDump_eq (hex : IsHex start.toNat word)
    (last : LastArgument standardLength (fun n => IsHex n.toNat) length args) :
    parseDump (word :: args) = .ok (.dump start length) := by
  have few : (word :: args).length ≤ 2 := Nat.succ_le_succ last.length_le
  have second : orElse standardLength parseHex (word :: args)[1]? = .ok length :=
    last.orElse_eq IsHex.parseHex_eq
  rw [parseDump, atMost_eq few, second, List.getElem?_cons_zero, required, hex.parseHex_eq]
  rfl

theorem parsePeek_eq (hex : IsHex address.toNat word) :
    parsePeek [word] = .ok (.peek address) := by
  rw [parsePeek, atMost_eq (Nat.le_refl 1), List.getElem?_cons_zero, required, hex.parseHex_eq]
  rfl

theorem parsePoke_eq (hex : IsHex address.toNat word) {bytes : List UInt8} (some : bytes ≠ [])
    (spelled : List.Forall₂ (fun byte => IsHex byte.toNat) bytes args) :
    parsePoke (word :: args) = .ok (.poke address bytes) := by
  have read := mapM_parseByte spelled
  cases spelled with
  | nil => exact absurd rfl some
  | @cons byte word' =>
    rw [parsePoke, List.getElem?_cons_zero, required, hex.parseHex_eq]
    simp only [List.drop_succ_cons, List.drop_zero, read]
    rfl

theorem parseRead_eq (hex : IsHex address.toNat word) (sized : bits = 8 ∨ bits = 16 ∨ bits = 32)
    (last : LastArgument 8 (fun bits => IsDecimal bits.toNat) bits args) :
    parseRead (word :: args) = .ok (.read address bits) := by
  have few : (word :: args).length ≤ 2 := Nat.succ_le_succ last.length_le
  have second : orElse 8 parseBits (word :: args)[1]? = .ok bits :=
    last.orElse_eq fun decimal => decimal.parseBits_eq sized
  rw [parseRead, atMost_eq few, second, List.getElem?_cons_zero, required, hex.parseHex_eq]
  rfl

theorem parseWrite_eq (hex : IsHex address.toNat word) (hex' : IsHex value.toNat word')
    (sized : bits = 8 ∨ bits = 16 ∨ bits = 32)
    (last : LastArgument 8 (fun bits => IsDecimal bits.toNat) bits args) :
    parseWrite (word :: word' :: args) = .ok (.write address value bits) := by
  have few : (word :: word' :: args).length ≤ 3 :=
    Nat.succ_le_succ (Nat.succ_le_succ last.length_le)
  have third : orElse 8 parseBits (word :: word' :: args)[2]? = .ok bits :=
    last.orElse_eq fun decimal => decimal.parseBits_eq sized
  rw [parseWrite, atMost_eq few, third, List.getElem?_cons_zero, required, hex.parseHex_eq,
    List.getElem?_cons_succ, List.getElem?_cons_zero, required, hex'.parseHex_eq]
  rfl

theorem parseLayer_eq {name : String} {on : Bool}
    (same : InAnyCase (if on then "on" else "off") word) :
    parseLayer [name, word] = .ok (.layer name on) := by
  rw [parseLayer, atMost_eq (Nat.le_refl 2), List.getElem?_cons_zero, required,
    List.getElem?_cons_succ, List.getElem?_cons_zero, required, parseToggle_eq same]
  rfl

theorem parseTrace_eq {count : Nat} (lt : count < UInt64.size)
    (last : LastArgument standardCount IsDecimal count args) :
    parseTrace args = .ok (.trace count) := by
  rw [parseTrace, atMost_eq last.length_le,
    last.orElse_eq fun decimal => decimal.parseCount_eq lt]
  rfl

end Verbs

/-- Arguments after the verb are read as the command. -/
theorem Arguments.ofWords_eq (arguments : c.Arguments args) (wellFormed : c.WellFormed)
    {verb : String} (known : folded verb ∈ c.verbs) : ofWords verb args = .ok c := by
  rw [ofWords]
  cases arguments with
  | dump hex last =>
    obtain name | name := List.mem_pair.mp known <;> rw [name] <;> exact parseDump_eq hex last
  | help =>
    obtain name | name := List.mem_pair.mp known <;> rw [name] <;> rfl
  | peek hex => rw [List.mem_singleton.mp known]; exact parsePeek_eq hex
  | poke hex spelled => rw [List.mem_singleton.mp known]; exact parsePoke_eq hex wellFormed spelled
  | read hex last => rw [List.mem_singleton.mp known]; exact parseRead_eq hex wellFormed last
  | write hex hex' last =>
    rw [List.mem_singleton.mp known]
    exact parseWrite_eq hex hex' wellFormed last
  | layer same => rw [List.mem_singleton.mp known]; exact parseLayer_eq same
  | trace last => rw [List.mem_singleton.mp known]; exact parseTrace_eq wellFormed last
  | regions | layers | events | devices => rw [List.mem_singleton.mp known]; rfl

theorem Arguments.solid (arguments : c.Arguments args) (wellFormed : c.WellFormed) :
    ∀ word ∈ args, IsWord word := by
  cases arguments with
  | dump hex last => exact List.forall_mem_cons.mpr ⟨hex.isWord, last.solid IsHex.isWord⟩
  | peek hex => exact List.forall_mem_singleton.mpr hex.isWord
  | poke hex spelled =>
    exact List.forall_mem_cons.mpr ⟨hex.isWord, solid_of_bytes spelled⟩
  | read hex last => exact List.forall_mem_cons.mpr ⟨hex.isWord, last.solid IsDecimal.isWord⟩
  | write hex hex' last =>
    exact List.forall_mem_cons.mpr ⟨hex.isWord,
      List.forall_mem_cons.mpr ⟨hex'.isWord, last.solid IsDecimal.isWord⟩⟩
  | @layer _ _ on same =>
    have isName : IsName (if on then "on" else "off") := by cases on <;> decide
    exact List.forall_mem_cons.mpr ⟨wellFormed,
      List.forall_mem_singleton.mpr (isWord_of_inAnyCase isName same)⟩
  | trace last => exact last.solid IsDecimal.isWord
  | help solid => exact solid
  | regions | layers | events | devices => exact fun word mem => by cases mem

/-- A line that tells a command is read as that command. -/
theorem Tells.parse_eq (tells : c.Tells line) (wellFormed : c.WellFormed) :
    parse line = .ok c := by
  obtain ⟨name, mem, verb, args, same, arguments, laid⟩ := tells
  have isName := isName_verb mem
  have solid : ∀ word ∈ verb :: args, IsWord word :=
    List.forall_mem_cons.mpr ⟨isWord_of_inAnyCase isName same, arguments.solid wellFormed⟩
  rw [parse, Blank.words_of_laid laid solid]
  refine arguments.ofWords_eq wellFormed ?_
  rwa [folded_of_inAnyCase isName same]

/-! ## What is read -/

theorem sized_of_orElse {arg : Option String} {bits : UInt8}
    (parsed : orElse 8 parseBits arg = .ok bits) : bits = 8 ∨ bits = 16 ∨ bits = 32 := by
  unfold orElse at parsed
  split at parsed
  · cases parsed
    exact .inl rfl
  · unfold parseBits at parsed
    split at parsed <;> cases parsed <;> decide

theorem wellFormed_of_parseDump (parsed : parseDump args = .ok c) : c.WellFormed := by
  unfold parseDump at parsed
  simp only [bind_eq_ok_iff, pure, Except.pure] at parsed
  obtain ⟨_, -, start, -, length, -, ⟨⟩⟩ := parsed
  trivial

theorem wellFormed_of_parsePeek (parsed : parsePeek args = .ok c) : c.WellFormed := by
  unfold parsePeek at parsed
  simp only [bind_eq_ok_iff, pure, Except.pure] at parsed
  obtain ⟨_, -, address, -, ⟨⟩⟩ := parsed
  trivial

theorem wellFormed_of_parsePoke (parsed : parsePoke args = .ok c) : c.WellFormed := by
  unfold parsePoke at parsed
  rw [bind_eq_ok_iff] at parsed
  obtain ⟨address, -, rest⟩ := parsed
  split at rest
  · cases rest
  · rename_i some
    simp only [bind_eq_ok_iff, pure, Except.pure] at rest
    obtain ⟨bytes, read, ⟨⟩⟩ := rest
    cases words : args.drop 1 with
    | nil => exact (some words).elim
    | cons word others =>
      simp only [words, List.mapM_cons, bind_eq_ok_iff, pure, Except.pure] at read
      obtain ⟨byte, -, bytes, -, ⟨⟩⟩ := read
      exact List.cons_ne_nil byte bytes

theorem wellFormed_of_parseRead (parsed : parseRead args = .ok c) : c.WellFormed := by
  unfold parseRead at parsed
  simp only [bind_eq_ok_iff, pure, Except.pure] at parsed
  obtain ⟨_, -, address, -, bits, width, ⟨⟩⟩ := parsed
  exact sized_of_orElse width

theorem wellFormed_of_parseWrite (parsed : parseWrite args = .ok c) : c.WellFormed := by
  unfold parseWrite at parsed
  simp only [bind_eq_ok_iff, pure, Except.pure] at parsed
  obtain ⟨_, -, address, -, value, -, bits, width, ⟨⟩⟩ := parsed
  exact sized_of_orElse width

theorem wellFormed_of_alone {verb : String} {c' : Command} (parsed : alone verb c' args = .ok c)
    (wellFormed : c'.WellFormed) : c.WellFormed := by
  unfold alone at parsed
  simp only [bind_eq_ok_iff, pure, Except.pure] at parsed
  obtain ⟨_, -, ⟨⟩⟩ := parsed
  exact wellFormed

theorem wellFormed_of_parseLayer (parsed : parseLayer args = .ok c)
    (solid : ∀ word ∈ args, IsWord word) : c.WellFormed := by
  unfold parseLayer at parsed
  simp only [bind_eq_ok_iff, pure, Except.pure] at parsed
  obtain ⟨_, -, name, found, on, -, ⟨⟩⟩ := parsed
  cases first : args[0]? with
  | none => rw [first] at found; cases found
  | some word =>
    rw [first] at found
    cases found
    exact solid _ (List.mem_of_getElem? first)

theorem wellFormed_of_parseTrace (parsed : parseTrace args = .ok c) : c.WellFormed := by
  unfold parseTrace at parsed
  simp only [bind_eq_ok_iff, pure, Except.pure] at parsed
  obtain ⟨_, -, count, found, ⟨⟩⟩ := parsed
  unfold orElse at found
  split at found
  · cases found
    exact (by decide : standardCount < UInt64.size)
  · unfold parseCount at found
    split at found <;> cases found
    rename_i read
    exact ((Numeral.readUnsigned_eq_some_iff (by decide)).mp read).1

/-- Every command that a line is read as is one that lines can tell. -/
theorem wellFormed_of_parse (parsed : parse line = .ok c) : c.WellFormed := by
  have solid (word : String) (mem : word ∈ Blank.words line) : Blank.IsWord word :=
    Blank.isWord_of_mem_words mem
  unfold parse at parsed
  split at parsed
  · cases parsed
  rename_i verb args words
  rw [words] at solid
  unfold ofWords at parsed
  split at parsed
  · exact wellFormed_of_parseDump parsed
  · exact wellFormed_of_parseDump parsed
  · exact wellFormed_of_parsePeek parsed
  · exact wellFormed_of_parsePoke parsed
  · exact wellFormed_of_parseRead parsed
  · exact wellFormed_of_parseWrite parsed
  · exact wellFormed_of_alone parsed trivial
  · exact wellFormed_of_alone parsed trivial
  · exact wellFormed_of_parseLayer parsed fun word mem => solid word (List.mem_cons_of_mem _ mem)
  · exact wellFormed_of_parseTrace parsed
  · exact wellFormed_of_alone parsed trivial
  · exact wellFormed_of_alone parsed trivial
  · cases parsed
    trivial
  · cases parsed
    trivial
  · cases parsed

/-! ## Lines for every command -/

theorem inAnyCase_self (name : String) : InAnyCase name name :=
  List.forall₂_same.mpr fun _ _ => .inl rfl

theorem isHex_hexLower (n : Nat) : IsHex n (Numeral.hexLower n) := by
  have writes := Numeral.writes_toDigits (by decide : 1 < 16) (Nat.le_refl 16) n
  exact ⟨[], by decide, _, String.toList_ofList, writes⟩

theorem isDecimal_decimal (n : Nat) : IsDecimal n (Numeral.decimal n) := by
  rw [IsDecimal, Numeral.decimal, String.toList_ofList]
  exact Numeral.writes_toDigits (by decide) (by decide) n

theorem exists_arguments (c : Command) : ∃ args, c.Arguments args := by
  cases c with
  | dump start length => exact ⟨_, .dump (isHex_hexLower _) (.given (isHex_hexLower _))⟩
  | peek address => exact ⟨_, .peek (isHex_hexLower _)⟩
  | poke address bytes =>
    let words := bytes.map fun byte => Numeral.hexLower byte.toNat
    have spelled : List.Forall₂ (fun byte word => IsHex byte.toNat word) bytes words :=
      List.forall₂_map_right_iff.mpr (List.forall₂_same.mpr fun _ _ => isHex_hexLower _)
    exact ⟨_, .poke (isHex_hexLower _) spelled⟩
  | read address bits => exact ⟨_, .read (isHex_hexLower _) (.given (isDecimal_decimal _))⟩
  | write address value bits =>
    exact ⟨_, .write (isHex_hexLower _) (isHex_hexLower _) (.given (isDecimal_decimal _))⟩
  | regions => exact ⟨_, .regions⟩
  | layers => exact ⟨_, .layers⟩
  | layer name on => exact ⟨_, .layer (inAnyCase_self _)⟩
  | trace count => exact ⟨_, .trace (.given (isDecimal_decimal _))⟩
  | events => exact ⟨_, .events⟩
  | devices => exact ⟨_, .devices⟩
  | help => exact ⟨[], .help fun word mem => by cases mem⟩

theorem verbs_ne_nil (c : Command) : c.verbs ≠ [] := by
  cases c <;> exact List.cons_ne_nil _ _

/-- Some line tells the command. -/
theorem exists_tells (c : Command) : ∃ line, c.Tells line := by
  obtain ⟨args, arguments⟩ := c.exists_arguments
  obtain ⟨verb, mem⟩ := List.exists_mem_of_ne_nil _ c.verbs_ne_nil
  obtain ⟨line, laid⟩ := Blank.exists_laid verb args
  exact ⟨line, verb, mem, verb, args, inAnyCase_self verb, arguments, laid⟩

/-- Whatever way a well-formed command is spelled, the line is read as that command and as
no other; every well-formed command has such a line; and no line is read as a command that
is not well formed. -/
theorem parse_spelled (c : Command) :
    (c.WellFormed → (∃ line, c.Tells line) ∧ ∀ line, c.Tells line → parse line = .ok c) ∧
      ∀ line, parse line = .ok c → c.WellFormed :=
  ⟨fun wellFormed => ⟨c.exists_tells, fun _ tells => tells.parse_eq wellFormed⟩,
    fun _ => wellFormed_of_parse⟩

theorem parse_spelled_write :
    (write 0x2000 0x1ff 8).WellFormed ∧
      (write 0x2000 0x1ff 8).Tells "\twRiTe 0X02000  $1fF 08 " ∧
      parse "\twRiTe 0X02000  $1fF 08 " = .ok (write 0x2000 0x1ff 8) := by
  have wellFormed : (write 0x2000 0x1ff 8).WellFormed := .inl rfl
  have hex {n : Nat} {word : String}
      (read : Numeral.readDigits 16 (hexDigitsOf word.toList) = some n) : IsHex n word :=
    isHex_iff.mpr ((Numeral.readDigits_eq_some_iff (Nat.le_refl 16)).mp read)
  have eight : IsDecimal 8 "08" :=
    (Numeral.readDigits_eq_some_iff (by decide)).mp (by decide)
  have verb : InAnyCase "write" "wRiTe" := by
    unfold InAnyCase
    decide
  have gap {cs : List Char} (blank : cs.all Blank.isBlank = true) : Blank.IsGap cs :=
    Blank.isGap_of_all blank
  have last : Laid ["08"] "08 ".toList :=
    @Laid.last [] [' '] _ (gap rfl) (gap (by decide))
  have third : Laid ["$1fF", "08"] " $1fF 08 ".toList :=
    @Laid.next [' '] _ _ _ ' ' (gap (by decide)) (by decide) last
  have second : Laid ["0X02000", "$1fF", "08"] "0X02000  $1fF 08 ".toList :=
    @Laid.next [] _ _ _ ' ' (gap rfl) (by decide) third
  have first : Laid ["wRiTe", "0X02000", "$1fF", "08"] "\twRiTe 0X02000  $1fF 08 ".toList :=
    @Laid.next ['\t'] _ _ _ ' ' (gap (by decide)) (by decide) second
  have tells : (write 0x2000 0x1ff 8).Tells "\twRiTe 0X02000  $1fF 08 " :=
    ⟨"write", by decide, "wRiTe", _, verb,
      .write (hex (by decide)) (hex (by decide)) (.given eight), first⟩
  exact ⟨wellFormed, tells, ((parse_spelled _).1 wellFormed).2 _ tells⟩

end Backplane.Command
