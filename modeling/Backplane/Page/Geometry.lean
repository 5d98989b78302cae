import Backplane.Bus.Error

/-!
# Geometry

The width of an address space and the size of its pages. A space has at most 32
address bits and at most 1048576 pages; a page has at least four bytes, so that
an aligned access of 32 bits stays on one page.
-/

namespace Backplane

/-- An address space divided into pages. -/
structure Geometry where
  /-- The number of address bits. -/
  addressBits : Nat
  /-- The number of address bits within a page. -/
  pageShift : Nat
  addressBits_le : addressBits ≤ 32
  two_le_pageShift : 2 ≤ pageShift
  pageShift_lt : pageShift < 32
  pageShift_le : pageShift ≤ addressBits
  pageBits_le : addressBits - pageShift ≤ 20
  deriving DecidableEq

namespace Geometry

/-- The geometry with these numbers of bits, if there is one. -/
def ofBits (addressBits pageShift : UInt8) : Except BusError Geometry :=
  if h : addressBits.toNat ≤ 32 ∧ 2 ≤ pageShift.toNat ∧ pageShift.toNat < 32 ∧
      pageShift.toNat ≤ addressBits.toNat ∧ addressBits.toNat - pageShift.toNat ≤ 20 then
    .ok ⟨addressBits.toNat, pageShift.toNat, h.1, h.2.1, h.2.2.1, h.2.2.2.1, h.2.2.2.2⟩
  else
    .error (.invalidGeometry addressBits pageShift)

/-- Sixteen address bits in pages of 256 bytes. -/
def standard : Geometry := ⟨16, 8, by omega, by omega, by omega, by omega, by omega⟩

instance : Inhabited Geometry := ⟨standard⟩

variable (g : Geometry)

/-- The number of bytes of a page. -/
def pageBytes : Nat := 1 <<< g.pageShift

/-- The number of bytes of a page, as a word. -/
def pageSize : UInt32 := g.pageBytes.toUInt32

/-- The last offset within a page. -/
def pageMask : UInt32 := g.pageSize - 1

/-- The number of pages. -/
def pageCount : Nat := 1 <<< (g.addressBits - g.pageShift)

/-- The number of bytes of the space. -/
def spaceSize : Nat := 1 <<< g.addressBits

/-- Whether `address` lies in the space. -/
def contains (address : UInt32) : Bool := address.toNat < g.spaceSize

/-- The page on which `address` lies, as if the space went on. -/
def pageOf (address : UInt32) : Nat := address.toNat / g.pageBytes

/-- The page of `address`, if it lies in the space. -/
def pageIndex (address : UInt32) : Option Nat :=
  if g.contains address then some (g.pageOf address) else none

/-- The distance of `address` from the start of its page. -/
def pageOffset (address : UInt32) : UInt32 := (address.toNat % g.pageBytes).toUInt32

/-- The first address of page `index`, in 32 bits. -/
def pageBase (index : Nat) : UInt32 := (index * g.pageBytes).toUInt32

/-- Whether `value` is a multiple of the page size. -/
def isAligned (value : UInt32) : Bool := value.toNat % g.pageBytes = 0

theorem pageCount_mul_pageBytes : g.pageCount * g.pageBytes = g.spaceSize := by
  simp only [pageCount, pageBytes, spaceSize, Nat.one_shiftLeft, ← Nat.pow_add]
  have := g.pageShift_le
  congr 1
  omega

theorem pageBytes_pos : 0 < g.pageBytes := by
  rw [pageBytes, Nat.one_shiftLeft]
  exact Nat.two_pow_pos _

theorem pageCount_pos : 0 < g.pageCount := by
  rw [pageCount, Nat.one_shiftLeft]
  exact Nat.two_pow_pos _

end Geometry
end Backplane
