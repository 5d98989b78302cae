/-!
# Memory

A block of bytes of fixed size. It is kept as the bytes up to the last one that
was ever set, and one byte that fills the rest; `get?` is the view that counts,
and `get?_set` says what setting a byte does to it.
-/

namespace Backplane

/-- A block of bytes. -/
structure Memory where
  /-- The number of bytes. -/
  size : Nat
  /-- Every byte past `head`. -/
  fill : UInt8
  /-- The bytes from offset zero on. -/
  head : Array UInt8
  deriving DecidableEq

namespace Memory

/-- A block whose bytes all equal `fill`. -/
def filled (size : Nat) (fill : UInt8) : Memory := ⟨size, fill, #[]⟩

/-- The block of these bytes. -/
def ofBytes (bytes : Array UInt8) : Memory := ⟨bytes.size, 0, bytes⟩

/-- The block of `size` bytes that begins with `image`; the rest equals
`fill`. -/
def ofImage (size : Nat) (image : Array UInt8) (fill : UInt8) : Memory := ⟨size, fill, image⟩

variable (m : Memory)

/-- The byte at an offset, if the block is that large. -/
def get? (offset : Nat) : Option UInt8 :=
  if offset < m.size then some (m.head.getD offset m.fill) else none

/-- Replaces the byte at an offset, if the block is that large. -/
def set (offset : Nat) (value : UInt8) : Memory :=
  if offset < m.size then
    { m with
      head := (m.head ++ Array.replicate (offset + 1 - m.head.size) m.fill).setIfInBounds
        offset value }
  else m

/-- All bytes, in order. -/
def toList : List UInt8 := (List.range m.size).map fun offset => m.head.getD offset m.fill

@[simp] theorem size_set (offset : Nat) (value : UInt8) : (m.set offset value).size = m.size := by
  unfold set
  split <;> rfl

theorem get?_filled (size : Nat) (fill : UInt8) (offset : Nat) :
    (filled size fill).get? offset = if offset < size then some fill else none := by
  simp [get?, filled]

theorem get?_set (offset : Nat) (value : UInt8) (i : Nat) :
    (m.set offset value).get? i =
      if offset = i ∧ i < m.size then some value else m.get? i := by
  simp only [get?, size_set]
  by_cases hi : i < m.size
  · by_cases ho : offset < m.size
    · simp only [set, ho, hi, if_true, Array.getD_eq_getD_getElem?, Array.getElem?_setIfInBounds,
        Array.size_append, Array.size_replicate, Array.getElem?_append,
        Array.getElem?_replicate]
      grind
    · have : offset ≠ i := by omega
      simp [set, ho, this]
  · simp [hi]

end Memory
end Backplane
