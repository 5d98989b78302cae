import Backplane.Page.Perms
import Backplane.Page.Region
import Backplane.Target.Caps
import Backplane.Target.Id

/-!
# Page entries

What answers the addresses of one page.
-/

namespace Backplane

/-- What answers a page. -/
structure PageEntry where
  /-- The target that answers, if the page is mapped. -/
  target : Option TargetId
  /-- What accesses through this page may do. -/
  perms : Perms
  /-- The capabilities of the target as seen through this page. -/
  caps : Caps
  /-- What occupies the page. -/
  region : Region
  /-- The offset in the target of the first byte of the page. -/
  physicalBase : UInt32
  /-- The device that owns the page; zero stands for plain memory. -/
  deviceId : UInt32
  deriving DecidableEq, Repr

namespace PageEntry

/-- The entry of a page that nothing answers. -/
def unmapped : PageEntry := ⟨none, .none, .none, .invalid, 0, 0⟩

instance : Inhabited PageEntry := ⟨unmapped⟩

/-- Whether some target answers the page. -/
def isMapped (e : PageEntry) : Bool := e.target.isSome

end PageEntry
end Backplane
