import Backplane.Json.Value

/-!
# JSON tokens

The text of a JSON value is read one character at a time. Blanks stand between
tokens only; punctuation and strings end where they say so, and any other run of
characters is a word, which must be `null`, `true`, `false` or a number.

A string is first a series of pieces: plain characters and 16-bit units that are
escaped by number. Two units may make a surrogate pair; a unit that is half of a
pair by itself spells nothing.
-/

namespace Backplane.Json

/-- A token of JSON text. -/
inductive Token where
  /-- An opening brace. -/
  | openObject
  /-- A closing brace. -/
  | closeObject
  /-- An opening bracket. -/
  | openArray
  /-- A closing bracket. -/
  | closeArray
  /-- A colon. -/
  | colon
  /-- A comma. -/
  | comma
  /-- A value without parts. -/
  | scalar (value : Json)

namespace Token

/-! ## Strings -/

/-- A piece of a string literal. -/
inductive Piece where
  /-- A character that stands for itself, or a short escape. -/
  | plain (c : Char)
  /-- A 16-bit unit escaped by number. -/
  | unit (value : Nat)
  deriving DecidableEq, Repr

/-- Whether a unit is the first half of a surrogate pair. -/
def isHigh (unit : Nat) : Bool := 0xD800 ≤ unit && unit < 0xDC00

/-- Whether a unit is the second half of a surrogate pair. -/
def isLow (unit : Nat) : Bool := 0xDC00 ≤ unit && unit < 0xE000

/-- The characters that pieces spell; nothing if half of a pair is alone. -/
def spell : List Piece → Option (List Char)
  | [] => some []
  | .plain c :: rest => (spell rest).map (c :: ·)
  | .unit high :: .unit low :: rest =>
    if isHigh high then
      if isLow low then
        (spell rest).map (Char.ofNat (0x10000 + (high - 0xD800) * 0x400 + (low - 0xDC00)) :: ·)
      else none
    else if isLow high then none
    else (spell (.unit low :: rest)).map (Char.ofNat high :: ·)
  | .unit u :: rest =>
    if isHigh u || isLow u then none else (spell rest).map (Char.ofNat u :: ·)

/-- The character that a short escape stands for. -/
def shortEscape : Char → Option Char
  | '"' => some '"'
  | '\\' => some '\\'
  | '/' => some '/'
  | 'b' => some '\x08'
  | 'f' => some '\x0c'
  | 'n' => some '\n'
  | 'r' => some '\r'
  | 't' => some '\t'
  | _ => none

/-! ## Reading -/

/-- Where a reader of JSON text stands. -/
inductive Place where
  /-- Between tokens. -/
  | between
  /-- In a word; its characters, the last first. -/
  | word (read : List Char)
  /-- In a string; its pieces, the last first. -/
  | string (read : List Piece)
  /-- After a backslash in a string. -/
  | escape (read : List Piece)
  /-- In the number of an escaped unit: how many digits are to come, and the
  number so far. -/
  | unit (read : List Piece) (left value : Nat)

/-- The token of a word. -/
def ofWord (word : List Char) : Option Token :=
  if word = "null".toList then some (.scalar .null)
  else if word = "true".toList then some (.scalar (.bool true))
  else if word = "false".toList then some (.scalar (.bool false))
  else if (readNumber word).isSome then some (.scalar (.number (String.ofList word)))
  else none

/-- Whether a character may stand between tokens. -/
def isGap (c : Char) : Bool := c = ' ' || c = '\t' || c = '\n' || c = '\r'

/-- The token of a punctuation mark. -/
def ofMark : Char → Option Token
  | '\x7b' => some .openObject
  | '\x7d' => some .closeObject
  | '[' => some .openArray
  | ']' => some .closeArray
  | ':' => some .colon
  | ',' => some .comma
  | _ => none

/-- A reader: the tokens so far, the last first, and where it stands. -/
structure Reader where
  /-- The tokens so far, the last first. -/
  tokens : List Token := []
  /-- Where the reader stands. -/
  place : Place := .between

namespace Reader

/-- Reads a character between tokens. -/
def between (tokens : List Token) (c : Char) : Reader :=
  if isGap c then ⟨tokens, .between⟩
  else if c = '"' then ⟨tokens, .string []⟩
  else match ofMark c with
    | some token => ⟨token :: tokens, .between⟩
    | none => ⟨tokens, .word [c]⟩

/-- Whether a character ends a word. -/
def endsWord (c : Char) : Bool := isGap c || c = '"' || (ofMark c).isSome

/-- Reads one character. -/
def step (r : Reader) (c : Char) : Option Reader :=
  match r.place with
  | .between => some (between r.tokens c)
  | .word read =>
    if endsWord c then do
      let token ← ofWord read.reverse
      return between (token :: r.tokens) c
    else some ⟨r.tokens, .word (c :: read)⟩
  | .string read =>
    if c = '"' then
      some ⟨.scalar (.text ((spell read.reverse).map String.ofList)) :: r.tokens, .between⟩
    else if c = '\\' then some ⟨r.tokens, .escape read⟩
    else if c.toNat < 0x20 then none
    else some ⟨r.tokens, .string (.plain c :: read)⟩
  | .escape read =>
    if c = 'u' then some ⟨r.tokens, .unit read 4 0⟩
    else do
      let c ← shortEscape c
      return ⟨r.tokens, .string (.plain c :: read)⟩
  | .unit read left value => do
    let digit ← Numeral.digitIn 16 c
    let value := value * 16 + digit
    if left ≤ 1 then return ⟨r.tokens, .string (.unit value :: read)⟩
    else return ⟨r.tokens, .unit read (left - 1) value⟩

/-- The tokens read, in order, if the text may end here. -/
def finish (r : Reader) : Option (List Token) :=
  match r.place with
  | .between => some r.tokens.reverse
  | .word read => do
    let token ← ofWord read.reverse
    return (token :: r.tokens).reverse
  | .string _ | .escape _ | .unit _ _ _ => none

end Reader

/-- The tokens of a text. -/
def scan (source : List Char) : Option (List Token) := do
  let r ← source.foldlM Reader.step {}
  r.finish

end Token
end Backplane.Json
