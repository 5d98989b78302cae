import Backplane.Proofs.Bus.Served
import Backplane.Proofs.Overlay.Refresh

/-!
# The map of a bus over a run

Whatever is done to a bus, its address space stays as wide and its pages as
large, and no layer goes away.
-/

namespace Backplane
namespace Bus

theorem setBases_succ (m : AddressMap) (first count : Nat) (entry : Nat → PageEntry) :
    setBases m first (count + 1) entry =
      (setBases m first count entry).setBase (first + count) (entry count) := by
  rw [setBases, List.range_succ, List.foldl_append]
  rfl

variable {σ : Type} [DeviceModel σ]

theorem setBases_follows (m : AddressMap) (first count : Nat) (entry : Nat → PageEntry) :
    (setBases m first count entry).Follows m := by
  induction count with
  | zero => exact .refl m
  | succ count ih =>
    rw [setBases_succ]
    exact ih.trans ⟨by simp, by simp⟩

theorem transactions_follow (b : Bus σ) (xs : List Transaction) :
    (xs.foldl transact b).map.Follows b.map := by
  induction xs generalizing b with
  | nil => exact .refl _
  | cons x xs ih =>
    have first : (b.transact x).map.Follows b.map := by
      rw [transact_map]
      exact b.map.commands_follows _
    exact first.trans (ih _)

theorem perform_follows (b : Bus σ) (operation : Operation σ) :
    (b.perform operation).map.Follows b.map := by
  rcases b.perform_map_cases operation with ⟨t, rfl⟩ | change
  · rw [perform, transfer_eq_foldl]
    exact b.transactions_follow _
  generalize (b.perform operation).map = map at change ⊢
  cases change with
  | none => exact .refl _
  | map | unmap => exact setBases_follows b.map _ _ _
  | create name priority => exact b.map.createLayer_follows name priority
  | save first count => exact b.map.saveBase_follows first count
  | activate id => exact b.map.activate_follows id
  | deactivate id => exact b.map.deactivate_follows id
  | place id mapping => exact b.map.setMapping_follows _ id mapping

theorem run_follows (b : Bus σ) (operations : List (Operation σ)) :
    (b.run operations).map.Follows b.map := by
  induction operations generalizing b with
  | nil => exact .refl _
  | cons operation operations ih => exact (b.perform_follows operation).trans (ih _)

end Bus
end Backplane
