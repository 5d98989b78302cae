import Mathlib
import Backplane.Device.Switch
import Backplane.Proofs.Bus.Operations
import Backplane.Proofs.Overlay.Refresh

/-!
# Refused operations

A configuration call checks its arguments in several steps, and some calls change
many pages. One that is refused changes nothing: no page, saved base entry, layer,
target, notice or trace record differs from before, so no call is ever carried out
in part (`refused_leaves_no_trace`). Refused calls can be left out of a run.

What a call leaves behind when it is refused is said by `Spares`, of the address
map first and then of the bus.
-/

namespace Backplane

/-- Why an outcome is a refusal, if it is one. -/
def refusalOf {ε α : Type} : Except ε α → Option ε
  | .ok _ => none
  | .error e => some e

/-- An operation on `before` with this outcome has changed nothing if it was
refused. -/
structure Spares {S ε α : Type} (before : S) (outcome : S × Except ε α) : Prop where
  eq_of_refused : ∀ {e : ε}, refusalOf outcome.2 = some e → outcome.1 = before

namespace Spares

variable {S ε α : Type}

theorem refuse (before : S) (e : ε) : Spares before (before, (.error e : Except ε α)) :=
  ⟨fun _ => rfl⟩

theorem accept (before after : S) (value : α) : Spares before (after, (.ok value : Except ε α)) :=
  ⟨fun refused => nomatch refused⟩

end Spares

/-! ## Address maps -/

namespace AddressMap

variable (m : AddressMap)

theorem createLayer_spares (name : String) (priority : Int32) :
    Spares m (m.createLayer name priority) := by
  unfold createLayer
  cases m.layerId? name with
  | some id => exact .refuse m _
  | none => exact .accept m _ _

/-- Whether a layer is in the way is asked of all pages before the first is
saved. -/
theorem saveBase_spares (first count : Nat) : Spares m (m.saveBase first count) := by
  unfold saveBase
  split
  · cases covered : (List.range' first count).find? fun page => (m.winner? page).isSome with
    | some page => simpa only [covered] using .refuse m _
    | none => simpa only [covered] using .accept m _ _
  · exact .refuse m _

/-- Whether its base entry is saved is asked of all pages before the first is
covered. -/
theorem activate_spares (id : LayerId) : Spares m (m.activate id) := by
  unfold activate
  cases m.layer? id with
  | none => exact .refuse m _
  | some l =>
    dsimp only
    split
    · exact .accept m _ _
    · cases m.unsaved? l.pages with
      | some page => exact .refuse m _
      | none => exact .accept m _ _

theorem deactivate_spares (id : LayerId) : Spares m (m.deactivate id) := by
  unfold deactivate
  cases m.layer? id with
  | none => exact .refuse m _
  | some l =>
    dsimp only
    split
    · exact .accept m _ _
    · exact .accept m _ _

theorem setMapping_spares {σ : Type} [DeviceModel σ] (arena : Arena σ) (id : LayerId)
    (mapping : LayerMapping) : Spares m (m.setMapping arena id mapping) := by
  rcases m.setMapping_cases arena id mapping with ⟨l, p, -, -, -, eq⟩ | ⟨e, eq⟩
  · rw [eq]
    exact .accept m _ _
  · rw [eq]
    exact .refuse m e

end AddressMap

/-! ## Buses -/

namespace Bus

variable {σ : Type} (b : Bus σ)

theorem onMap_spares {α : Type} {outcome : AddressMap × Except BusError α}
    (h : Spares b.map outcome) : Spares b (b.onMap outcome) where
  eq_of_refused refused := by rw [onMap, h.eq_of_refused refused]

theorem addTarget_spares (name : String) (target : Target σ) :
    Spares b (b.addTarget name target) := by
  unfold addTarget
  cases b.arena.insert name target with
  | error e => exact .refuse b e
  | ok added => exact .accept b _ _

theorem unmapRange_spares (start length : UInt32) : Spares b (b.unmapRange start length) := by
  rcases b.unmapRange_cases start length with ⟨first, count, -, eq⟩ | ⟨e, eq⟩
  · rw [eq]
    exact .accept b _ _
  · rw [eq]
    exact .refuse b e

theorem enableTrace_spares (capacity : Nat) : Spares b (b.enableTrace capacity) := by
  unfold enableTrace
  cases TraceRing.ofCapacity capacity with
  | error e => exact .refuse b e
  | ok ring => exact .accept b _ _

/-- A call that names a layer is refused if there is none of this name, and else
does what it does with the id. -/
theorem named_spares (name : String) {call : LayerId → Bus σ × Except BusError Unit}
    (each : ∀ id, Spares b (call id)) :
    Spares b (match b.map.named name with
      | .error e => (b, .error e)
      | .ok id => call id) := by
  cases b.map.named name with
  | error e => exact .refuse b e
  | ok id => exact each id

variable [DeviceModel σ]

theorem mapRange_spares (start length : UInt32) (mapping : RangeMapping) :
    Spares b (b.mapRange start length mapping) := by
  rcases b.mapRange_cases start length mapping with ⟨first, count, size, -, -, -, eq⟩ | ⟨e, eq⟩
  · rw [eq]
    exact .accept b _ _
  · rw [eq]
    exact .refuse b e

omit [DeviceModel σ] in
theorem activate_spares (id : LayerId) : Spares b (b.activate id) :=
  b.onMap_spares (b.map.activate_spares id)

omit [DeviceModel σ] in
theorem deactivate_spares (id : LayerId) : Spares b (b.deactivate id) :=
  b.onMap_spares (b.map.deactivate_spares id)

/-- Why the bus refuses an operation, if it does. Accesses fault instead, and are
never refused. -/
def refusal (b : Bus σ) : Operation σ → Option BusError
  | .addTarget name target => refusalOf (b.addTarget name target).2
  | .mapRange start length mapping => refusalOf (b.mapRange start length mapping).2
  | .unmapRange start length => refusalOf (b.unmapRange start length).2
  | .createLayer name priority => refusalOf (b.createLayer name priority).2
  | .saveBase first count => refusalOf (b.saveBase first count).2
  | .activate id => refusalOf (b.activate id).2
  | .deactivate id => refusalOf (b.deactivate id).2
  | .activateNamed name => refusalOf (b.activateNamed name).2
  | .deactivateNamed name => refusalOf (b.deactivateNamed name).2
  | .setLayerMapping name mapping => refusalOf (b.setLayerMapping name mapping).2
  | .enableTrace capacity => refusalOf (b.enableTrace capacity).2
  | .disableTrace | .drainNotices | .transfer _ => none

/-- The operations that are not refused when their turn comes, in order. -/
def accepted (b : Bus σ) : List (Operation σ) → List (Operation σ)
  | [] => []
  | o :: os =>
    match b.refusal o with
    | some _ => accepted b os
    | none => o :: accepted (b.perform o) os

theorem perform_of_refusal {o : Operation σ} {e : BusError} (refused : b.refusal o = some e) :
    b.perform o = b := by
  cases o with
  | addTarget name target => exact (b.addTarget_spares name target).eq_of_refused refused
  | mapRange start length mapping =>
    exact (b.mapRange_spares start length mapping).eq_of_refused refused
  | unmapRange start length => exact (b.unmapRange_spares start length).eq_of_refused refused
  | createLayer name priority =>
    exact (b.onMap_spares (b.map.createLayer_spares name priority)).eq_of_refused refused
  | saveBase first count =>
    exact (b.onMap_spares (b.map.saveBase_spares first count)).eq_of_refused refused
  | activate id => exact (b.activate_spares id).eq_of_refused refused
  | deactivate id => exact (b.deactivate_spares id).eq_of_refused refused
  | activateNamed name =>
    exact (b.named_spares name b.activate_spares).eq_of_refused refused
  | deactivateNamed name =>
    exact (b.named_spares name b.deactivate_spares).eq_of_refused refused
  | setLayerMapping name mapping =>
    have each (id : LayerId) : Spares b (b.onMap (b.map.setMapping b.arena id mapping)) :=
      b.onMap_spares (b.map.setMapping_spares b.arena id mapping)
    exact (b.named_spares name each).eq_of_refused refused
  | enableTrace capacity => exact (b.enableTrace_spares capacity).eq_of_refused refused
  | disableTrace | drainNotices | transfer => cases refused

/-- A run comes to the same without the operations that it sees refused. -/
theorem run_accepted (os : List (Operation σ)) : b.run (b.accepted os) = b.run os := by
  induction os generalizing b with
  | nil => rfl
  | cons o os ih =>
    have next : b.run (o :: os) = (b.perform o).run os := rfl
    rw [accepted, next]
    cases refused : b.refusal o with
    | some e =>
      rw [b.perform_of_refusal refused]
      exact ih b
    | none => exact ih (b.perform o)

/-- An operation that is refused leaves the bus as it was: the targets, the live
table, the saved base entries, the layers, the notices and the trace. So a run comes
to the same with and without the operations that it sees refused. -/
theorem refused_leaves_no_trace (b : Bus σ) :
    (∀ (o : Operation σ) (e : BusError), b.refusal o = some e → b.perform o = b) ∧
      ∀ os : List (Operation σ), b.run (b.accepted os) = b.run os :=
  ⟨fun _ _ refused => b.perform_of_refusal refused, b.run_accepted⟩

/-- Layer `low` is shown over page 1, layer `high` is to go over pages 1 and 2, and
of these only page 1 is saved. Accesses are traced. -/
def halfSaved : Bus SwitchBank :=
  (Bus.empty smallSpace).run
    [.addTarget "ram" (.ram (.filled 12 0)),
     .mapRange 0 12 { target := ⟨0⟩, perms := .all, region := .ram },
     .createLayer "low" 0, .createLayer "high" 1, .saveBase 0 2,
     .setLayerMapping "low" { base := 4, target := ⟨0⟩, perms := .read, length := some 4 },
     .setLayerMapping "high" { base := 4, target := ⟨0⟩, perms := .all, length := some 8 },
     .activate ⟨0⟩, .enableTrace 2, .transfer (.read (.read 4))]

/-- Each of these could be carried out on its first page. -/
theorem refused_leaves_no_trace_midway :
    let save : Operation SwitchBank := .saveBase 0 2
    let reveal : Operation SwitchBank := .activateNamed "high"
    let place : Operation SwitchBank := .setLayerMapping "low"
      { base := 4, target := ⟨0⟩, perms := .all, length := some 8 }
    let map : Operation SwitchBank := .mapRange 0 16
      { target := ⟨0⟩, perms := .all, region := .ram }
    halfSaved.refusal save = some (.layerActive "low" 1) ∧ halfSaved.perform save = halfSaved ∧
    halfSaved.refusal reveal = some (.baseNotSaved "high" 2) ∧
      halfSaved.perform reveal = halfSaved ∧
    halfSaved.refusal place = some (.baseNotSaved "low" 2) ∧
      halfSaved.perform place = halfSaved ∧
    halfSaved.refusal map = some (.outOfBounds 0 16) ∧ halfSaved.perform map = halfSaved ∧
    halfSaved.run [save, reveal, .deactivate ⟨0⟩, place, map] =
      halfSaved.run (halfSaved.accepted [save, reveal, .deactivate ⟨0⟩, place, map]) := by
  intro save reveal place map
  obtain ⟨unchanged, runs⟩ := refused_leaves_no_trace halfSaved
  have saving : halfSaved.refusal save = some (.layerActive "low" 1) := by decide_cbv
  have showing : halfSaved.refusal reveal = some (.baseNotSaved "high" 2) := by decide_cbv
  have placing : halfSaved.refusal place = some (.baseNotSaved "low" 2) := by decide_cbv
  have mapping : halfSaved.refusal map = some (.outOfBounds 0 16) := by decide_cbv
  exact ⟨saving, unchanged _ _ saving, showing, unchanged _ _ showing, placing,
    unchanged _ _ placing, mapping, unchanged _ _ mapping, (runs _).symm⟩

end Bus
end Backplane
