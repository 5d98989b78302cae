import Mathlib
import Backplane.Json.Parser
import Backplane.Json.Printer
import Backplane.Proofs.Json.Numbers

/-!
# JSON values read back

The text of a value is read as that value (`parse?_pretty`), if the value can be kept whole.

Between the text and the value stand the tokens of the value (`tokens`). A builder makes the
value of its tokens, for every value (`ofTokens?_tokens`). A reader finds the tokens in the text:
each part of a text takes a reader on by the tokens of that part (`Reads`), and these parts are
put together in the order of writing.
-/

namespace Backplane.Json

/-- What holds of a value if it holds of the values in it holds of all values. -/
@[elab_as_elim]
theorem nestedInduction {P : Json → Prop} (null : P .null) (bool : ∀ value, P (.bool value))
    (number : ∀ literal, P (.number literal)) (text : ∀ value, P (.text value))
    (array : ∀ items, (∀ item ∈ items, P item) → P (.array items))
    (object : ∀ members, (∀ m ∈ members, P m.2) → P (.object members)) (value : Json) : P value :=
  @Json.rec P (fun items => ∀ item ∈ items, P item) (fun members => ∀ m ∈ members, P m.2)
    (fun m => P m.2) null bool number text array object nofun
    (fun _ _ first rest => List.forall_mem_cons.mpr ⟨first, rest⟩) nofun
    (fun _ _ first rest => List.forall_mem_cons.mpr ⟨first, rest⟩) (fun _ _ here => here) value

/-! ## Tokens of a value -/

mutual

/-- The tokens of a value. -/
def tokens : Json → List Token
  | .array items => .openArray :: ((itemTokens items).intersperse [.comma]).flatten ++ [.closeArray]
  | .object members =>
    .openObject :: ((memberTokens members).intersperse [.comma]).flatten ++ [.closeObject]
  | .null => [.scalar .null]
  | .bool value => [.scalar (.bool value)]
  | .number literal => [.scalar (.number literal)]
  | .text value => [.scalar (.text value)]

/-- The tokens of the items of an array. -/
def itemTokens : List Json → List (List Token)
  | [] => []
  | item :: items => tokens item :: itemTokens items

/-- The tokens of the members of an object. -/
def memberTokens : List (Option String × Json) → List (List Token)
  | [] => []
  | (key, value) :: members =>
    (.scalar (.text key) :: .colon :: tokens value) :: memberTokens members

end

theorem itemTokens_eq_map (items : List Json) : itemTokens items = items.map tokens := by
  induction items with
  | nil => rfl
  | cons item items ih => rw [itemTokens, ih, List.map_cons]

theorem memberTokens_eq_map (members : List (Option String × Json)) :
    memberTokens members = members.map fun m => .scalar (.text m.1) :: .colon :: tokens m.2 := by
  induction members with
  | nil => rfl
  | cons m members ih => rw [memberTokens, ih, List.map_cons]

/-! ## Building a value -/

namespace Builder

/-- What a builder makes of things between commas: it goes from `opened` to `held` by each of
them, and on by the comma that follows. -/
theorem foldlM_intersperse {α : Type} (opened built : List α → Builder)
    (held : List α → α → Builder)
    (toTokens : α → List Token) (close : Token)
    (next : ∀ done x, (held done x).step .comma = some (opened (x :: done)))
    (last : ∀ done x, (held done x).step close = some (built (x :: done)))
    {x : α} {xs : List α} (done : List α)
    (each : ∀ y ∈ x :: xs, ∀ done, (toTokens y).foldlM step (opened done) = some (held done y)) :
    ((((x :: xs).map toTokens).intersperse [.comma]).flatten ++ [close]).foldlM step (opened done) =
      some (built ((x :: xs).reverse ++ done)) := by
  induction xs generalizing x done with
  | nil =>
    obtain ⟨here, -⟩ := List.forall_mem_cons.mp each
    rw [List.map_singleton, List.intersperse_singleton, List.flatten_singleton, List.foldlM_append,
      here done]
    exact (bind_pure _).trans (last done x)
  | cons y ys ih =>
    obtain ⟨here, rest⟩ := List.forall_mem_cons.mp each
    have later := ih (x := y) (x :: done) rest
    have split : ((x :: y :: ys).map toTokens).intersperse [Token.comma] =
        toTokens x :: [.comma] :: ((y :: ys).map toTokens).intersperse [.comma] := rfl
    rw [split, List.flatten_cons, List.flatten_cons, List.append_assoc, List.append_assoc,
      List.foldlM_append, here done, Option.bind_eq_bind, Option.bind_some, List.singleton_append,
      List.foldlM_cons, next, Option.bind_eq_bind, Option.bind_some, later]
    simp only [List.reverse_cons, List.append_assoc, List.cons_append, List.nil_append]

/-- The first of things between commas comes first. -/
theorem flatten_intersperse {α : Type} (toTokens : α → List Token) (x : α) (xs : List α) :
    ∃ rest, (((x :: xs).map toTokens).intersperse [Token.comma]).flatten = toTokens x ++ rest := by
  cases xs with
  | nil => exact ⟨[], rfl⟩
  | cons y ys => exact ⟨_, rfl⟩

/-- Where an item or the end of an array may come, an item is taken like where it must come. -/
theorem foldlM_firstItem (frames : List Frame) (item : Json) (rest : List Token) :
    (tokens item ++ rest).foldlM step ⟨.array [] :: frames, .firstItem⟩ =
      (tokens item ++ rest).foldlM step ⟨.array [] :: frames, .value⟩ := by
  cases item <;> rfl

/-- A builder makes a value of its tokens. -/
theorem foldlM_tokens (value : Json) (frames : List Frame) :
    (tokens value).foldlM step ⟨frames, .value⟩ = some ⟨frames, .after value⟩ := by
  induction value using nestedInduction generalizing frames with
  | null => rfl
  | bool => rfl
  | number => rfl
  | text => rfl
  | array items ih =>
    rw [tokens, itemTokens_eq_map]
    cases items with
    | nil => rfl
    | cons item items =>
      have built := foldlM_intersperse (fun done => ⟨.array done :: frames, .value⟩)
        (fun done => ⟨frames, .after (.array done.reverse)⟩)
        (fun done item => ⟨.array done :: frames, .after item⟩) tokens .closeArray
        (fun _ _ => rfl) (fun _ _ => rfl) [] fun item mem done => ih item mem _
      obtain ⟨rest, begins⟩ := flatten_intersperse tokens item items
      rw [List.append_nil, List.reverse_reverse, begins, List.append_assoc, ← foldlM_firstItem,
        ← List.append_assoc, ← begins] at built
      exact built
  | object members ih =>
    rw [tokens, memberTokens_eq_map]
    cases members with
    | nil => rfl
    | cons m members =>
      have built := foldlM_intersperse (fun done => ⟨.object done :: frames, .key⟩)
        (fun done => ⟨frames, .after (.object done.reverse)⟩)
        (fun done m => ⟨.member done m.1 :: frames, .after m.2⟩)
        (fun m => .scalar (.text m.1) :: .colon :: tokens m.2) .closeObject
        (fun _ _ => rfl) (fun _ _ => rfl) [] fun m mem done => ih m mem _
      obtain ⟨rest, begins⟩ := flatten_intersperse
        (fun m : Option String × Json => .scalar (.text m.1) :: .colon :: tokens m.2) m members
      rw [List.append_nil, List.reverse_reverse, begins] at built
      rw [begins]
      exact built

end Builder

theorem ofTokens?_tokens (value : Json) : ofTokens? (tokens value) = some value := by
  have built := Builder.foldlM_tokens value []
  rw [ofTokens?, built]
  rfl

/-! ## Reading tokens -/

namespace Token

namespace Reader

theorem step_between (ts : List Token) (c : Char) : step ⟨ts, .between⟩ c = some (between ts c) :=
  rfl

theorem step_word (ts : List Token) (word : List Char) (c : Char) :
    step ⟨ts, .word word⟩ c =
      if endsWord c then (ofWord word.reverse).bind fun token => some (between (token :: ts) c)
      else some ⟨ts, .word (c :: word)⟩ := rfl

theorem step_string (ts : List Token) (pieces : List Piece) (c : Char) :
    step ⟨ts, .string pieces⟩ c =
      if c = '"' then
        some ⟨.scalar (.text ((spell pieces.reverse).map String.ofList)) :: ts, .between⟩
      else if c = '\\' then some ⟨ts, .escape pieces⟩
      else if c.toNat < 0x20 then none
      else some ⟨ts, .string (.plain c :: pieces)⟩ := rfl

theorem step_unit (ts : List Token) (pieces : List Piece) (left value : Nat) (c : Char) :
    step ⟨ts, .unit pieces left value⟩ c =
      (Numeral.digitIn 16 c).bind fun digit =>
        if left ≤ 1 then some ⟨ts, .string (.unit (value * 16 + digit) :: pieces)⟩
        else some ⟨ts, .unit pieces (left - 1) (value * 16 + digit)⟩ := rfl

/-- A reader with these tokens that stands between tokens. -/
def Rests (r : Reader) (read : List Token) : Prop := r = ⟨read.reverse, .between⟩

/-- A reader with these tokens, of which the last may be a word that could go on. -/
def Holds (r : Reader) (read : List Token) : Prop :=
  r.Rests read ∨ ∃ before word token, r = ⟨List.reverse before, .word word⟩ ∧
    ofWord word.reverse = some token ∧ read = before ++ [token]

/-- A character that ends words is read the same after a word. -/
theorem Holds.step {r : Reader} {read : List Token} (holds : r.Holds read) {c : Char}
    (ends : endsWord c = true) : r.step c = some (between read.reverse c) := by
  rcases holds with rfl | ⟨before, word, token, rfl, here, rfl⟩
  · rfl
  · rw [step_word, if_pos ends, here, Option.bind_some, List.reverse_append]
    rfl

/-- A text may end where a word could go on. -/
theorem Holds.finish {r : Reader} {read : List Token} (holds : r.Holds read) :
    r.finish = some read := by
  rcases holds with rfl | ⟨before, word, token, rfl, here, rfl⟩
  · exact congrArg some (List.reverse_reverse read)
  · rw [Reader.finish]
    simp only [here, Option.bind_eq_bind, Option.bind_some, List.reverse_cons, List.reverse_reverse]
    rfl

end Reader

open Reader (Rests Holds)

/-- The characters `cs` take a reader on by the tokens `ts`, from where `P` says to where `Q`
says. -/
def Reads (P Q : Reader → List Token → Prop) (cs : List Char) (ts : List Token) : Prop :=
  ∀ r read, P r read → ∃ r', cs.foldlM Reader.step r = some r' ∧ Q r' (read ++ ts)

variable {P Q R : Reader → List Token → Prop} {cs ds : List Char} {ts us : List Token}

/-- Texts that follow each other. -/
theorem Reads.append (first : Reads P Q cs ts) (next : Reads Q R ds us) :
    Reads P R (cs ++ ds) (ts ++ us) := by
  intro r read pre
  obtain ⟨r', reads, mid⟩ := first r read pre
  obtain ⟨r'', reads', post⟩ := next r' (read ++ ts) mid
  rw [List.append_assoc] at post
  refine ⟨r'', ?_, post⟩
  rw [List.foldlM_append, reads]
  exact reads'

/-- A reader that stands between tokens is read on like one that may be in a word. -/
theorem Reads.ofHolds (reads : Reads Holds Q cs ts) : Reads Rests Q cs ts :=
  fun r read rests => reads r read (.inl rests)

theorem Reads.toHolds (reads : Reads P Rests cs ts) : Reads P Holds cs ts := by
  intro r read pre
  obtain ⟨r', steps, post⟩ := reads r read pre
  exact ⟨r', steps, .inl post⟩

/-- A character that leads back between tokens. -/
theorem reads_ends {c : Char} (ends : Reader.endsWord c = true)
    (next : ∀ read, Reader.between read c = ⟨ts.reverse ++ read, .between⟩) :
    Reads Holds Rests [c] ts := by
  intro r read holds
  refine ⟨⟨ts.reverse ++ read.reverse, .between⟩, ?_, ?_⟩
  · rw [List.foldlM_cons, holds.step ends, next]
    rfl
  · rw [Rests, List.reverse_append]

/-- A blank adds no token. -/
theorem reads_gap {c : Char} (gap : isGap c = true) : Reads Holds Rests [c] [] := by
  refine reads_ends (by rw [Reader.endsWord, gap]; rfl) fun read => ?_
  rw [Reader.between, if_pos gap]
  rfl

/-- A punctuation mark is a token. -/
theorem reads_mark {c : Char} {token : Token} (mark : ofMark c = some token) :
    Reads Holds Rests [c] [token] := by
  refine reads_ends (by rw [Reader.endsWord, mark, Option.isSome_some, Bool.or_true]) fun read => ?_
  have apart : isGap c = false ∧ c ≠ '"' := by
    unfold ofMark at mark
    split at mark
    case h_7 => cases mark
    all_goals exact ⟨rfl, by decide⟩
  rw [Reader.between, apart.1, if_neg Bool.false_ne_true, if_neg apart.2, mark]
  rfl

/-- Characters that do not end a word make it longer. -/
theorem foldlM_word (runs : cs.any Reader.endsWord = false) (ts : List Token)
    (word : List Char) :
    cs.foldlM Reader.step ⟨ts, .word word⟩ = some ⟨ts, .word (cs.reverse ++ word)⟩ := by
  induction cs generalizing word with
  | nil => rfl
  | cons c cs ih =>
    obtain ⟨here, rest⟩ := Bool.or_eq_false_iff.mp (List.any_cons ▸ runs)
    rw [List.foldlM_cons, Reader.step_word, here, if_neg Bool.false_ne_true, Option.bind_eq_bind,
      Option.bind_some, ih rest, List.reverse_cons, List.append_assoc]
    rfl

/-- A word is a token. -/
theorem reads_word {token : Token} (word : ofWord cs = some token) (nonempty : cs ≠ [])
    (runs : cs.any Reader.endsWord = false) : Reads Rests Holds cs [token] := by
  rintro r read rfl
  obtain ⟨c, ds, rfl⟩ := List.exists_cons_of_ne_nil nonempty
  obtain ⟨here, rest⟩ := Bool.or_eq_false_iff.mp (List.any_cons ▸ runs)
  refine ⟨⟨read.reverse, .word (ds.reverse ++ [c])⟩, ?_, .inr ⟨read, _, token, rfl, ?_, rfl⟩⟩
  · have begins : Reader.between read.reverse c = ⟨read.reverse, .word [c]⟩ := by
      simp only [Reader.endsWord, Bool.or_eq_false_iff, decide_eq_false_iff_not,
        Option.isSome_eq_false_iff, Option.isNone_iff_eq_none] at here
      rw [Reader.between, here.1.1, if_neg Bool.false_ne_true, if_neg here.1.2, here.2]
    rw [List.foldlM_cons, Reader.step_between, begins, Option.bind_eq_bind, Option.bind_some,
      foldlM_word rest]
  · rwa [List.reverse_append, List.reverse_reverse]

/-! ## Reading strings -/

/-- The piece of a string literal that a character is written as. -/
def pieceOf (c : Char) : Piece :=
  if c.toNat < 0x20 ∧ c ∉ ['\x08', '\x0c', '\n', '\r', '\t'] then .unit c.toNat else .plain c

/-- The number of a control character is read from its two digits. -/
theorem foldlM_unit (ts : List Token) (pieces : List Piece) {n : Nat} (lt : n < 0x20) :
    ['u', '0', '0', Nat.digitChar (n / 16), Nat.digitChar (n % 16)].foldlM Reader.step
        ⟨ts, .escape pieces⟩ = some ⟨ts, .string (.unit n :: pieces)⟩ := by
  have zero : Numeral.digitIn 16 '0' = some 0 := rfl
  have high := Numeral.digitIn_digitChar (by omega : n / 16 < 16) (Nat.le_refl 16)
  have low := Numeral.digitIn_digitChar (by omega : n % 16 < 16) (Nat.le_refl 16)
  have begins : Reader.step ⟨ts, .escape pieces⟩ 'u' = some ⟨ts, .unit pieces 4 0⟩ := rfl
  have digits : ((0 * 16 + 0) * 16 + 0) * 16 + n / 16 = n / 16 := by omega
  have value : n / 16 * 16 + n % 16 = n := by omega
  simp only [List.foldlM_cons, List.foldlM_nil, begins, Reader.step_unit, zero, high, low,
    Option.bind_eq_bind, Option.bind_some, Nat.reduceLeDiff, if_false, if_true, Nat.reduceSub,
    digits, value]
  rfl

theorem foldlM_escape (ts : List Token) (pieces : List Piece) (c : Char) :
    (escape c).foldlM Reader.step ⟨ts, .string pieces⟩ =
      some ⟨ts, .string (pieceOf c :: pieces)⟩ := by
  unfold escape
  split
  · subst_vars; rfl
  split
  · subst_vars; rfl
  split
  · subst_vars; rfl
  split
  · subst_vars; rfl
  split
  · subst_vars; rfl
  split
  · subst_vars; rfl
  split
  · subst_vars; rfl
  rename_i quote backslash backspace feed newline carriage tab
  have others : c ∉ ['\x08', '\x0c', '\n', '\r', '\t'] := by
    simp only [List.mem_cons, List.not_mem_nil, or_false, not_or]
    exact ⟨backspace, feed, newline, carriage, tab⟩
  split
  · rename_i control
    have begins : Reader.step ⟨ts, .string pieces⟩ '\\' = some ⟨ts, .escape pieces⟩ := rfl
    rw [List.foldlM_cons, begins, Option.bind_eq_bind, Option.bind_some,
      foldlM_unit ts pieces control,
      pieceOf, if_pos ⟨control, others⟩]
  · rename_i printed
    rw [List.foldlM_cons, Reader.step_string, if_neg quote, if_neg backslash, if_neg printed,
      pieceOf, if_neg fun control => printed control.1]
    rfl

theorem foldlM_escapes (ts : List Token) (pieces : List Piece) (cs : List Char) :
    (cs.flatMap escape).foldlM Reader.step ⟨ts, .string pieces⟩ =
      some ⟨ts, .string ((cs.map pieceOf).reverse ++ pieces)⟩ := by
  induction cs generalizing pieces with
  | nil => rfl
  | cons c cs ih =>
    rw [List.flatMap_cons, List.foldlM_append, foldlM_escape, Option.bind_eq_bind, Option.bind_some,
      ih, List.map_cons, List.reverse_cons, List.append_assoc]
    rfl

/-- A unit that is no half of a pair spells a character, whatever follows. -/
theorem spell_unit {u : Nat} (high : isHigh u = false) (low : isLow u = false)
    (rest : List Piece) : spell (.unit u :: rest) = (spell rest).map (Char.ofNat u :: ·) := by
  rcases rest with - | ⟨c | v, rest⟩
  · simp only [spell, high, low, Bool.or_self, Bool.false_eq_true, if_false]
  · simp only [spell, high, low, Bool.or_self, Bool.false_eq_true, if_false]
  · rw [spell, high, low, if_neg Bool.false_ne_true, if_neg Bool.false_ne_true]

/-- The pieces of characters spell these characters. -/
theorem spell_pieces (cs : List Char) : spell (cs.map pieceOf) = some cs := by
  induction cs with
  | nil => rfl
  | cons c cs ih =>
    rw [List.map_cons, pieceOf]
    split
    · rename_i control
      rw [spell_unit (by simp [isHigh]; omega) (by simp [isLow]; omega), ih, Char.ofNat_toNat]
      rfl
    · rw [spell, ih]
      rfl

/-- A string literal is a token. -/
theorem reads_quote (s : String) : Reads Holds Rests (quote s) [.scalar (.text (some s))] := by
  have ends : Reader.endsWord '"' = true := rfl
  intro r read holds
  refine ⟨_, ?_, rfl⟩
  have begins : r.step '"' = some ⟨read.reverse, .string []⟩ := holds.step ends
  have spelled : spell ((s.toList.map pieceOf).reverse ++ []).reverse = some s.toList := by
    rw [List.append_nil, List.reverse_reverse, spell_pieces]
  rw [quote, List.cons_append, List.foldlM_cons, begins, Option.bind_eq_bind, Option.bind_some,
    List.foldlM_append, foldlM_escapes, Option.bind_eq_bind, Option.bind_some, List.foldlM_cons,
    Reader.step_string, if_pos rfl, spelled, List.reverse_append]
  simp

end Token

/-! ## Reading values -/

open Token Token.Reader

theorem reads_lineBreak (depth : Nat) : Reads Holds Rests (lineBreak depth) [] := by
  have blanks : ∀ n, Reads Rests Rests (List.replicate n ' ') [] := by
    intro n
    induction n with
    | zero => exact fun r read rests => ⟨r, rfl, by rwa [List.append_nil]⟩
    | succ n ih => exact (reads_gap (c := ' ') rfl).ofHolds.append ih
  exact (reads_gap (c := '\n') rfl).append (blanks (2 * depth))

variable {lines : List (List Char)} {parts : List (List Token)}

/-- Lines between commas. -/
theorem reads_lines (depth : Nat) (each : List.Forall₂ (Reads Rests Holds) lines parts) :
    Reads Holds Holds ((lines.map (lineBreak depth ++ ·)).intersperse [',']).flatten
      (parts.intersperse [.comma]).flatten := by
  induction each with
  | nil => exact fun r read holds => ⟨r, rfl, (List.append_nil read).symm ▸ holds⟩
  | @cons line part lines parts here rest ih =>
    have first : Reads Holds Holds (lineBreak depth ++ line) part :=
      (reads_lineBreak depth).append here
    cases rest with
    | nil =>
      rw [List.map_singleton, List.intersperse_singleton, List.flatten_singleton,
        List.intersperse_singleton, List.flatten_singleton]
      exact first
    | cons next others =>
      have comma : Reads Holds Holds [','] [.comma] := (reads_mark rfl).toHolds
      exact first.append (comma.append ih)

/-- A block of lines. -/
theorem reads_block {opening closing : Char} {first last : Token}
    (begins : ofMark opening = some first) (ends : ofMark closing = some last) (depth : Nat)
    (each : List.Forall₂ (Reads Rests Holds) lines parts) :
    Reads Holds Rests (block opening closing depth lines)
      (first :: (parts.intersperse [.comma]).flatten ++ [last]) := by
  have opened : Reads Holds Holds [opening] [first] := (reads_mark begins).toHolds
  have closed : Reads Holds Rests [closing] [last] := reads_mark ends
  cases each with
  | nil => exact opened.append closed
  | cons here rest =>
    have broken := (reads_lineBreak depth).toHolds.append closed
    have whole := (opened.append (reads_lines (depth + 1) (.cons here rest))).append broken
    rw [← List.append_assoc] at whole
    exact whole

theorem renderItems_eq_map (depth : Nat) (items : List Json) :
    renderItems depth items = items.map (render depth) := by
  induction items with
  | nil => rfl
  | cons item items ih => rw [renderItems, ih, List.map_cons]

theorem renderMembers_eq_map (depth : Nat) (members : List (Option String × Json)) :
    renderMembers depth members =
      members.map fun m => quote (m.1.getD "") ++ [':', ' '] ++ render depth m.2 := by
  induction members with
  | nil => rfl
  | cons m members ih => rw [renderMembers, ih, List.map_cons]

/-- A number is a token. -/
theorem reads_number {literal : String} {n : NumberParts}
    (number : readNumber literal.toList = some n) :
    Reads Rests Holds literal.toList [.scalar (.number literal)] := by
  have other : ∀ {word : List Char}, readNumber word = none → literal.toList ≠ word := by
    rintro word absent rfl
    rw [absent] at number
    cases number
  have word : ofWord literal.toList = some (.scalar (.number literal)) := by
    rw [ofWord, if_neg (other (by decide)), if_neg (other (by decide)), if_neg (other (by decide)),
      number, String.ofList_toList]
    rfl
  refine reads_word word (other rfl) (List.any_eq_false.mpr fun c mem => ?_)
  rw [(numeric_of_readNumber number c mem).not_endsWord]
  exact Bool.false_ne_true

/-- A key and its value. -/
theorem reads_member {key : Option String} {text : List Char} {ts : List Token}
    (spelled : key.isSome = true) (value : Reads Rests Holds text ts) :
    Reads Holds Holds (quote (key.getD "") ++ [':', ' '] ++ text)
      (.scalar (.text key) :: .colon :: ts) := by
  obtain ⟨key, rfl⟩ := Option.isSome_iff_exists.mp spelled
  have colon : Reads Holds Rests [':', ' '] [.colon] :=
    (reads_mark (c := ':') rfl).toHolds.append (reads_gap (c := ' ') rfl)
  exact ((reads_quote key).toHolds.append colon).append value

/-- The text of a value has the tokens of that value. -/
theorem reads_render {value : Json} {room : Nat} (sound : value.isSound room = true)
    (depth : Nat) : Reads Rests Holds (render depth value) (tokens value) := by
  induction value using nestedInduction generalizing room depth with
  | null =>
    show Reads Rests Holds "null".toList _
    exact reads_word rfl (by decide) rfl
  | bool b =>
    cases b with
    | false =>
      show Reads Rests Holds "false".toList _
      exact reads_word rfl (by decide) rfl
    | true =>
      show Reads Rests Holds "true".toList _
      exact reads_word rfl (by decide) rfl
  | number literal =>
    rw [isSound] at sound
    cases number : readNumber literal.toList with
    | none => rw [number] at sound; cases sound
    | some n => exact reads_number number
  | text s =>
    rw [isSound] at sound
    obtain ⟨s, rfl⟩ := Option.isSome_iff_exists.mp sound
    exact (reads_quote s).toHolds.ofHolds
  | array items ih =>
    cases room with
    | zero => cases sound
    | succ room =>
      rw [render, tokens, itemTokens_eq_map, renderItems_eq_map]
      rw [isSound, List.all_eq_true] at sound
      refine (reads_block rfl rfl depth ?_).toHolds.ofHolds
      rw [List.forall₂_map_left_iff, List.forall₂_map_right_iff, List.forall₂_same]
      exact fun item mem => ih item mem (sound item mem) (depth + 1)
  | object members ih =>
    cases room with
    | zero => cases sound
    | succ room =>
      rw [render, tokens, memberTokens_eq_map, renderMembers_eq_map]
      rw [isSound, List.all_eq_true] at sound
      refine (reads_block rfl rfl depth ?_).toHolds.ofHolds
      rw [List.forall₂_map_left_iff, List.forall₂_map_right_iff, List.forall₂_same]
      intro m mem
      obtain ⟨key, kept⟩ := (Bool.and_eq_true_iff.mp (sound m mem))
      exact (reads_member key (ih m mem kept (depth + 1))).ofHolds

/-- The text of a value is read as that value, if the value can be kept whole. -/
theorem parse?_pretty {value : Json} {room : Nat} (sound : value.isSound room = true) :
    parse? value.pretty = some value := by
  obtain ⟨r, reads, holds⟩ := reads_render sound 0 {} [] rfl
  have scanned : scan (render 0 value) = some value.tokens := by
    rw [scan, reads, Option.bind_eq_bind, Option.bind_some, holds.finish]
    rfl
  rw [parse?, pretty, String.toList_ofList, scanned, Option.bind_eq_bind, Option.bind_some,
    ofTokens?_tokens]

end Backplane.Json
