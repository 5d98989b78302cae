import Mathlib
import Backplane.Device.Switch
import Backplane.Proofs.Overlay.Simulation

/-!
# What a run leaves visible

The page table of a bus realizes its overlay after any run: whatever layers were
created, shown, hidden or placed, in whatever order, by a user or by a device in
the middle of an access, a page shows the entry of the layer that wins it, and
else its base entry. So hiding layers restores the base exactly, with what
became of it in the meantime.

The main statement is `run_realizes`, with `live_iff_shows` spelling it out.
-/

namespace Backplane

/-! ## Operations -/

namespace Overlay

open Bus

variable {σ : Type} [DeviceModel σ] {b : Bus σ} {o : Overlay}

theorem commands_realize {m : AddressMap} (h : m.Realizes o) (few : m.layers.size ≤ maxLayers)
    (cs : List LayerCommand)
    (bound : (cs.foldl AddressMap.command m).layers.size ≤ maxLayers) :
    (cs.foldl AddressMap.command m).Realizes (cs.foldl command o) := by
  induction cs generalizing m o with
  | nil => exact h
  | cons c cs ih =>
    have few' := Nat.le_trans ((m.command c).commands_follows cs).size_le bound
    exact ih (h.command few c) few' bound

/-- The commands of devices take effect in the order in which they were issued,
at the end of the transaction that issued them. -/
theorem transactions_realize (h : b.map.Realizes o) (xs : List Transaction)
    (few : (xs.foldl transact b).map.layers.size ≤ maxLayers) :
    (xs.foldl transact b).map.Realizes (xs.foldl obey (b, o)).2 := by
  induction xs generalizing b o with
  | nil => exact h
  | cons x xs ih =>
    have few' := Nat.le_trans ((b.transact x).transactions_follow xs).size_le few
    have first : (b.transact x).map.Realizes (obey (b, o) x).2 := by
      rw [transact_map] at few' ⊢
      exact commands_realize h
        (Nat.le_trans (b.map.commands_follows _).size_le few') _ few'
    exact ih first few

theorem mapRange_realizes (h : b.map.Realizes o) (start length : UInt32)
    (mapping : RangeMapping) :
    (b.perform (.mapRange start length mapping)).map.Realizes
      (o.step b (.mapRange start length mapping)) := by
  rw [perform, step]
  rcases b.mapRange_cases start length mapping with ⟨first, count, -, range, -, -, eq⟩ | ⟨e, eq⟩
  · rw [eq]
    obtain ⟨rfl, rfl, -⟩ := b.pageRange_eq_ok range
    exact h.setBases _ _ _
  · rw [eq]
    exact h

theorem unmapRange_realizes (h : b.map.Realizes o) (start length : UInt32) :
    (b.perform (.unmapRange start length)).map.Realizes
      (o.step b (.unmapRange start length)) := by
  rw [perform, step]
  rcases b.unmapRange_cases start length with ⟨first, count, range, eq⟩ | ⟨e, eq⟩
  · rw [eq]
    obtain ⟨rfl, rfl, -⟩ := b.pageRange_eq_ok range
    exact h.setBases _ _ _
  · rw [eq]
    exact h

/-- Every operation keeps the map in step with its overlay. -/
theorem step_realizes (h : b.map.Realizes o) (operation : Operation σ)
    (few : (b.perform operation).map.layers.size ≤ maxLayers) :
    (b.perform operation).map.Realizes (o.step b operation) := by
  have few' := Nat.le_trans (b.perform_follows operation).size_le few
  cases operation with
  | addTarget name target =>
    rw [perform, addTarget_map]
    exact h
  | mapRange start length mapping => exact mapRange_realizes h start length mapping
  | unmapRange start length => exact unmapRange_realizes h start length
  | createLayer name priority => exact h.createLayer name priority
  | saveBase first count => exact h.saveBase first count
  | activate id => exact h.activate few' id
  | deactivate id => exact h.deactivate few' id
  | activateNamed name =>
    simp only [perform, step, activateNamed, named]
    rcases h.named_cases few' name with ⟨id, found, position⟩ | ⟨⟨e, missing⟩, position⟩
    · rw [found, position]
      exact h.activate few' id
    · rw [missing, position]
      exact h
  | deactivateNamed name =>
    simp only [perform, step, deactivateNamed, named]
    rcases h.named_cases few' name with ⟨id, found, position⟩ | ⟨⟨e, missing⟩, position⟩
    · rw [found, position]
      exact h.deactivate few' id
    · rw [missing, position]
      exact h
  | setLayerMapping name mapping =>
    simp only [perform, step, setLayerMapping, named]
    rcases h.named_cases few' name with ⟨id, found, position⟩ | ⟨⟨e, missing⟩, position⟩
    · rw [found, position]
      exact h.setMapping few' b.arena id mapping
    · rw [missing, position]
      exact h
  | enableTrace capacity =>
    rw [perform, enableTrace_map]
    exact h
  | disableTrace => exact h
  | drainNotices => exact h
  | transfer t =>
    simp only [perform, transfer_eq_foldl] at few ⊢
    exact transactions_realize h _ few

/-- The table of a bus realizes its overlay after any run. -/
theorem run_realizes (h : b.map.Realizes o) (operations : List (Operation σ))
    (few : (b.run operations).map.layers.size ≤ maxLayers) :
    (b.run operations).map.Realizes (after b o operations) := by
  induction operations generalizing b o with
  | nil => exact h
  | cons operation operations ih =>
    have few' := Nat.le_trans ((b.perform operation).run_follows operations).size_le few
    exact ih (step_realizes h operation few') few

/-- After any run from a bus without mappings, a page shows the entry of the layer
that wins it, or else its base entry; what is saved of a page is its base entry;
and it is saved for every page that an active layer covers. -/
theorem live_iff_shows (geometry : Geometry) (operations : List (Operation σ))
    (few : ((Bus.empty geometry : Bus σ).run operations).map.layers.size ≤ maxLayers) :
    let map := ((Bus.empty geometry : Bus σ).run operations).map
    let o := after (Bus.empty geometry : Bus σ) .bare operations
    map.layers.toList = o.layers ∧
    (∀ page < geometry.pageCount, ∀ entry, map.table.get? page = some entry ↔ o.Shows page entry) ∧
    (∀ page < geometry.pageCount, Uncovered map.layers.toList page →
      map.table.get? page = some (o.base page)) ∧
    (∀ page entry, map.savedBase? page = some entry → entry = o.base page) ∧
    (∀ l ∈ map.layers, l.active = true → ∀ page, l.covers page = true →
      page < geometry.pageCount ∧ (map.savedBase? page).isSome) := by
  intro map o
  have realizes : map.Realizes o :=
    run_realizes (AddressMap.Realizes.empty geometry) operations few
  have space : map.geometry = geometry :=
    ((Bus.empty geometry : Bus σ).run_follows operations).geometry_eq
  have live (page : Nat) (lt : page < geometry.pageCount) (entry : PageEntry) :
      map.table.get? page = some entry ↔ o.Shows page entry := by
    obtain ⟨shown, here, shows⟩ := realizes.live page (space ▸ lt)
    rw [here, Option.some.injEq]
    constructor
    · rintro rfl
      exact shows
    · intro other
      exact shows.unique other
  refine ⟨realizes.layers, live, ?_, ?_, ?_⟩
  · intro page lt uncovered
    rw [realizes.layers] at uncovered
    exact (live page lt _).mpr (.base uncovered)
  · intro page entry saved
    rw [realizes.saved] at saved
    split at saved
    · exact (Option.some.inj saved).symm
    · cases saved
  · intro l hl active page covers
    rw [← Array.mem_toList_iff, realizes.layers] at hl
    obtain ⟨i, here⟩ := List.getElem?_of_mem hl
    have kept := realizes.covered ⟨here, active, covers⟩
    exact ⟨space ▸ realizes.lt_of_kept kept, (realizes.kept_iff page).mp kept⟩

/-- Two layers of the same priority meet on page 1. While both are shown, the
base of pages 0 to 2 moves; then a switch on page 3 hides the layer created
first. -/
def crossing : List (Operation SwitchBank) :=
  [.addTarget "ram" (.ram (.filled 64 0)),
   .addTarget "switch" (.device { table := ⟨#[{ read := .deactivate ⟨0⟩ }, {}, {}, {}]⟩ }),
   .addTarget "spare" (.ram (.filled 4 0)),
   .mapRange 0 12 { target := ⟨0⟩, perms := .all, region := .ram },
   .mapRange 12 4 { target := ⟨1⟩, perms := .all, region := .io },
   .createLayer "first" 1, .createLayer "second" 1, .saveBase 0 3,
   .setLayerMapping "first"
     { base := 0, target := ⟨0⟩, perms := .all, targetOffset := 16, length := some 8 },
   .setLayerMapping "second"
     { base := 4, target := ⟨0⟩, perms := .all, targetOffset := 32, length := some 8 },
   .activateNamed "second", .activate ⟨0⟩,
   .mapRange 0 12 { target := ⟨0⟩, perms := .all, region := .ram, targetOffset := 48 },
   .unmapRange 4 4,
   .transfer (.read (.read 12))]

/-- An entry of memory that begins at `offset` in target 0. -/
def memoryAt (offset : UInt32) : PageEntry := ⟨some ⟨0⟩, .all, .memory, .ram, offset, 0⟩

theorem live_iff_shows_crossing :
    ((Bus.empty smallSpace : Bus SwitchBank).run crossing).map.layers.size ≤ maxLayers ∧
    (after (Bus.empty smallSpace) .bare crossing).Shows 0 (memoryAt 48) ∧
    (after (Bus.empty smallSpace) .bare crossing).Shows 1 (memoryAt 32) ∧
    .unmapped = (after (Bus.empty smallSpace) .bare crossing).base 1 := by
  have few : (run (.empty smallSpace) crossing).map.layers.size ≤ maxLayers := by
    decide_cbv
  obtain ⟨-, live, -, saved, -⟩ := live_iff_shows smallSpace crossing few
  refine ⟨few, (live 0 (by decide) _).mp ?_, (live 1 (by decide) _).mp ?_, saved 1 _ ?_⟩
  all_goals decide_cbv

end Overlay

/-- The map of a reachable bus realizes some overlay. -/
theorem Bus.Reachable.realizes {σ : Type} [DeviceModel σ] {b : Bus σ} (h : b.Reachable)
    (few : b.map.layers.size ≤ maxLayers) : ∃ o, b.map.Realizes o := by
  induction h with
  | empty geometry => exact ⟨_, .empty geometry⟩
  | @perform b operation _ ih =>
    obtain ⟨o, realizes⟩ := ih (Nat.le_trans (b.perform_follows operation).size_le few)
    exact ⟨_, Overlay.step_realizes realizes operation few⟩

end Backplane
