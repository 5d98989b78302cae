import Backplane.Text.Numeral

/-!
# Layer ids

Layers are numbered in sixteen bits, in the order of creation.
-/

namespace Backplane

/-- The number of an overlay layer. -/
structure LayerId where
  /-- Position among the layers, in sixteen bits. -/
  number : UInt16
  deriving DecidableEq, Repr, Inhabited

namespace LayerId

/-- The position of the layer. -/
def index (id : LayerId) : Nat := id.number.toNat

/-- The id given to the layer at position `i`. -/
def ofIndex (i : Nat) : LayerId := ⟨i.toUInt16⟩

/-- The text of an id: `L` and its number. -/
def text (id : LayerId) : String := "L" ++ Numeral.decimal id.index

end LayerId
end Backplane
