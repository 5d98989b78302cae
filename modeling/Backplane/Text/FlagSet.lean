import Backplane.Text.Numeral
import Backplane.Text.Blank

/-!
# The text of a set of flags

A set of up to eight flags is written as the names of its flags, joined by
bars; bits that have no name follow as one hexadecimal number. The empty set is
the empty text.

Reading takes the parts between bars, blanks around them aside: each is a name
or a hexadecimal number after `0x`, and the set is their union.
-/

namespace Backplane.FlagSet

/-- The names of some flags, each with its bit, in the order of writing. -/
abbrev Names := List (String × UInt8)

/-- The bits that some name stands for. -/
def known (names : Names) : UInt8 :=
  names.foldl (fun bits flag => bits ||| flag.2) 0

/-- The parts of the text of `bits`: the names of its flags, then its other
bits as a number. -/
def parts (names : Names) (bits : UInt8) : List String :=
  let unnamed := bits &&& ~~~(known names)
  (names.filter fun flag => bits &&& flag.2 = flag.2).map Prod.fst ++
    if unnamed = 0 then [] else ["0x" ++ Numeral.hexLower unnamed.toNat]

/-- The text of the set `bits`. -/
def text (names : Names) (bits : UInt8) : String :=
  " | ".intercalate (parts names bits)

/-- The text of the set `bits` where an empty text would be mistaken for
nothing: the empty set is written as a number. -/
def shown (names : Names) (bits : UInt8) : String :=
  if bits = 0 then "0x0" else text names bits

/-- The pieces of `cs` between the characters `sep`, at least one. -/
def splitAt (sep : Char) : List Char → List (List Char)
  | [] => [[]]
  | c :: cs =>
    if c = sep then [] :: splitAt sep cs
    else match splitAt sep cs with
      | [] => [[c]]
      | piece :: pieces => (c :: piece) :: pieces

/-- The bits that one part stands for. -/
def readPart (names : Names) (part : List Char) : Option UInt8 :=
  match part with
  | [] => none
  | '0' :: 'x' :: digits => (Numeral.readUnsigned 16 256 digits).map Nat.toUInt8
  | _ => (names.find? fun flag => flag.1.toList = part).map Prod.snd

/-- The set that `source` writes, or nothing if a part of it is no flag. -/
def read? (names : Names) (source : String) : Option UInt8 :=
  match Blank.trim source.toList with
  | [] => some 0
  | cs => ((splitAt '|' cs).mapM fun part => readPart names (Blank.trim part)).map
      fun bits => bits.foldl (· ||| ·) 0

end Backplane.FlagSet
