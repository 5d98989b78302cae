import Backplane.Json.Value

/-!
# Writing JSON

Values are written in one of two ways: without any blanks, or with each item and
member on a line of its own, two blanks further in than what holds it, where
empty arrays and objects stay on one line. In a string, only quotes, backslashes
and control characters are escaped.
-/

namespace Backplane.Json

/-- A character inside a string literal. -/
def escape (c : Char) : List Char :=
  if c = '"' then ['\\', '"']
  else if c = '\\' then ['\\', '\\']
  else if c = '\x08' then ['\\', 'b']
  else if c = '\x0c' then ['\\', 'f']
  else if c = '\n' then ['\\', 'n']
  else if c = '\r' then ['\\', 'r']
  else if c = '\t' then ['\\', 't']
  else if c.toNat < 0x20 then
    ['\\', 'u', '0', '0', Nat.digitChar (c.toNat / 16), Nat.digitChar (c.toNat % 16)]
  else [c]

/-- The string literal that spells `s`. -/
def quote (s : String) : List Char := '"' :: s.toList.flatMap escape ++ ['"']

/-- A line break and the blanks that begin the next line. -/
def lineBreak (depth : Nat) : List Char := '\n' :: List.replicate (2 * depth) ' '

/-- Lines between an opening and a closing mark, each but the last followed by a
comma. -/
def block (opening closing : Char) (depth : Nat) (lines : List (List Char)) : List Char :=
  if lines.isEmpty then [opening, closing]
  else
    opening :: (List.intersperse [','] (lines.map (lineBreak (depth + 1) ++ ·))).flatten ++
      lineBreak depth ++ [closing]

mutual

/-- The text of a value that stands `depth` levels in. -/
def render (depth : Nat) : Json → List Char
  | .null => "null".toList
  | .bool value => if value then "true".toList else "false".toList
  | .number literal => literal.toList
  | .text value => quote (value.getD "")
  | .array items => block '[' ']' depth (renderItems (depth + 1) items)
  | .object members => block '\x7b' '\x7d' depth (renderMembers (depth + 1) members)

/-- The texts of the items of an array. -/
def renderItems (depth : Nat) : List Json → List (List Char)
  | [] => []
  | item :: items => render depth item :: renderItems depth items

/-- The texts of the members of an object. -/
def renderMembers (depth : Nat) : List (Option String × Json) → List (List Char)
  | [] => []
  | (key, value) :: members =>
    (quote (key.getD "") ++ [':', ' '] ++ render depth value) :: renderMembers depth members

end

/-- The text of a value, line by line. -/
def pretty (value : Json) : String := String.ofList (render 0 value)

mutual

/-- Writes a value without blanks behind `done`. -/
def write (done : String) : Json → String
  | .null => done ++ "null"
  | .bool value => done ++ if value then "true" else "false"
  | .number literal => done ++ literal
  | .text value => done ++ String.ofList (quote (value.getD ""))
  | .array items => (writeItems (done.push '[') true items).push ']'
  | .object members => (writeMembers (done.push '\x7b') true members).push '\x7d'

/-- Writes items behind `done`, with a comma before each but the first. -/
def writeItems (done : String) (first : Bool) : List Json → String
  | [] => done
  | item :: items =>
    writeItems (write (if first then done else done.push ',') item) false items

/-- Writes members behind `done`, with a comma before each but the first. -/
def writeMembers (done : String) (first : Bool) : List (Option String × Json) → String
  | [] => done
  | (key, value) :: members =>
    let opened := (if first then done else done.push ',') ++ String.ofList (quote (key.getD ""))
    writeMembers (write (opened.push ':') value) false members

end

/-- The text of a value without blanks. -/
def compact (value : Json) : String := write "" value

end Backplane.Json
