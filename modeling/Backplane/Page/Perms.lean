import Backplane.Text.FlagSet

/-!
# Page permissions

The permission bits of a page and the region it belongs to. Bits without a name
are kept as they are.
-/

namespace Backplane

/-- The permissions of a page. -/
structure Perms where
  /-- Bit 0 allows reads, bit 1 writes, bit 2 instruction fetches. -/
  bits : UInt8
  deriving DecidableEq, Repr, Inhabited

namespace Perms

/-- No permission. -/
def none : Perms := ⟨0⟩

/-- Data and debug reads. -/
def read : Perms := ⟨1⟩

/-- Data writes. -/
def write : Perms := ⟨2⟩

/-- Instruction fetches. -/
def execute : Perms := ⟨4⟩

/-- Reads and fetches, as of read-only memory that holds code. -/
def readExecute : Perms := ⟨5⟩

/-- Reads and writes, as of data memory and devices. -/
def readWrite : Perms := ⟨3⟩

/-- Reads, writes and fetches, as of general memory. -/
def all : Perms := ⟨7⟩

/-- Whether every permission of `q` is one of `p`. -/
def contains (p q : Perms) : Bool := p.bits &&& q.bits = q.bits

/-- The names of the permissions. -/
def names : FlagSet.Names := [("READ", 1), ("WRITE", 2), ("EXECUTE", 4)]

/-- The text of `p` as a set of flags. -/
def text (p : Perms) : String := FlagSet.text names p.bits

/-- The permissions that `source` writes. -/
def read? (source : String) : Option Perms := (FlagSet.read? names source).map Perms.mk

/-- The three letters `RWX`, a dash for each permission that is missing. -/
def triplet (p : Perms) : String :=
  String.ofList
    [if p.contains read then 'R' else '-',
     if p.contains write then 'W' else '-',
     if p.contains execute then 'X' else '-']

end Perms
end Backplane
