import Backplane.Text.FlagSet

/-!
# Capabilities of targets

What a target promises about itself. Bits without a name are kept as they are.
-/

namespace Backplane

/-- The capabilities of a target. -/
structure Caps where
  /-- Bits 0 to 4: peek, poke, wide access, side effects, timing. -/
  bits : UInt8
  deriving DecidableEq, Repr, Inhabited

namespace Caps

/-- No capability. -/
def none : Caps := ⟨0⟩

/-- Reads without side effects are supported. -/
def peek : Caps := ⟨1⟩

/-- Writes without side effects are supported. -/
def poke : Caps := ⟨2⟩

/-- Accesses of several bytes are supported. -/
def wide : Caps := ⟨4⟩

/-- An ordinary access may change the state of the device. -/
def sideEffects : Caps := ⟨8⟩

/-- The device depends on when it is accessed. -/
def timing : Caps := ⟨16⟩

/-- The capabilities of plain memory. -/
def memory : Caps := ⟨7⟩

/-- Whether every capability of `d` is one of `c`. -/
def contains (c d : Caps) : Bool := c.bits &&& d.bits = d.bits

/-- The capabilities in both. -/
def inter (c d : Caps) : Caps := ⟨c.bits &&& d.bits⟩

/-- The capabilities in either. -/
def union (c d : Caps) : Caps := ⟨c.bits ||| d.bits⟩

/-- The capabilities of a whole whose parts have these: what plain memory can do
is kept only if every part can, while side effects and timing spread from any
part. -/
def ofParts (parts : List Caps) : Caps :=
  let shared := parts.foldl inter memory
  let spread := parts.foldl (fun any c => any.union (c.inter (sideEffects.union timing))) none
  shared.union spread

/-- The names of the capabilities. -/
def names : FlagSet.Names :=
  [("SUPPORTS_PEEK", 1), ("SUPPORTS_POKE", 2), ("SUPPORTS_WIDE", 4),
   ("HAS_SIDE_EFFECTS", 8), ("TIMING_SENSITIVE", 16)]

/-- The text of `c` as a set of flags. -/
def text (c : Caps) : String := FlagSet.text names c.bits

/-- The text of `c` in the description of a target. -/
def shown (c : Caps) : String := FlagSet.shown names c.bits

/-- The capabilities that `source` writes. -/
def read? (source : String) : Option Caps := (FlagSet.read? names source).map Caps.mk

end Caps
end Backplane
