import Backplane.Page.Entry
import Backplane.Page.Geometry

/-!
# The page table

One entry for each page of an address space. `lookup` finds the entry that
answers an address, with the offset in its target that the address stands for.
-/

namespace Backplane

/-- The entries of all pages of an address space. -/
structure PageTable where
  /-- The space that is divided into pages. -/
  geometry : Geometry
  /-- One entry for each page, in order. -/
  entries : Array PageEntry
  size_entries : entries.size = geometry.pageCount

/-- A page index at or past the end of its table. -/
structure PageIndexError where
  /-- The number of pages. -/
  count : Nat
  /-- The index asked for. -/
  index : Nat
  deriving DecidableEq, Repr

/-- The text of the error. -/
def PageIndexError.message (e : PageIndexError) : String :=
  "index out of bounds: the len is " ++ Numeral.decimal e.count ++ " but the index is " ++
    Numeral.decimal e.index

namespace PageTable

/-- The table in which no page is mapped. -/
def empty (geometry : Geometry) : PageTable where
  geometry := geometry
  entries := Array.replicate geometry.pageCount .unmapped
  size_entries := Array.size_replicate

variable (t : PageTable)

/-- The number of pages. -/
def pageCount : Nat := t.entries.size

/-- The entry of page `index`, if there is such a page. -/
def get? (index : Nat) : Option PageEntry := t.entries[index]?

/-- The entry of page `index`. -/
def get (index : Nat) : Except PageIndexError PageEntry :=
  match t.entries[index]? with
  | some entry => .ok entry
  | none => .error ⟨t.pageCount, index⟩

/-- Replaces the entry of page `index`. -/
def set (index : Nat) (entry : PageEntry) : PageTable where
  geometry := t.geometry
  entries := t.entries.setIfInBounds index entry
  size_entries := by simp [t.size_entries]

/-- The entry that answers `address` and the offset in its target; nothing
outside the space. -/
def lookup (address : UInt32) : Option (PageEntry × UInt32) := do
  let index ← t.geometry.pageIndex address
  let entry ← t.entries[index]?
  return (entry, entry.physicalBase + t.geometry.pageOffset address)

theorem lookup_eq_some_iff {t : PageTable} {address offset : UInt32} {entry : PageEntry} :
    t.lookup address = some (entry, offset) ↔
      ∃ page, t.geometry.pageIndex address = some page ∧ t.get? page = some entry ∧
        entry.physicalBase + t.geometry.pageOffset address = offset := by
  simp only [lookup, get?, Option.bind_eq_bind, Option.bind_eq_some_iff, Option.pure_def,
    Option.some.injEq, Prod.mk.injEq]
  constructor
  · rintro ⟨page, index, _, here, rfl, sum⟩
    exact ⟨page, index, here, sum⟩
  · rintro ⟨page, index, here, sum⟩
    exact ⟨page, index, entry, here, rfl, sum⟩

@[simp] theorem geometry_set (index : Nat) (entry : PageEntry) :
    (t.set index entry).geometry = t.geometry := rfl

theorem get?_set (index page : Nat) (entry : PageEntry) :
    (t.set index entry).get? page =
      if index = page ∧ page < t.pageCount then some entry else t.get? page := by
  simp only [get?, set, pageCount, Array.getElem?_setIfInBounds]
  grind

end PageTable
end Backplane
