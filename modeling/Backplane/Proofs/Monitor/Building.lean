import Mathlib
import Backplane.Proofs.Monitor.Composition

/-!
# How a session is built

Building a session does few kinds of things to a bus (`Bus.Builds`). It makes a target, a
window part by part, adds it and shows it in whole; and now and then it does what adds and
shows nothing. What these steps keep, every session has (`build_builds`).
-/

namespace Backplane

/-! ## Steps -/

/-- Building leads from an empty bus to this one, with a target that is still to be added. -/
inductive Bus.Builds {σ : Type} [DeviceModel σ] (g : Geometry) : Bus σ → Option (Target σ) → Prop
  /-- Nothing is mapped. -/
  | empty : Builds g (.empty g) none
  /-- A target is made that leads to no other. -/
  | leaf {b : Bus σ} {target : Target σ} : Builds g b none → target.IsLeaf →
    Builds g b (some target)
  /-- A window is begun. -/
  | gap {b : Bus σ} (size : UInt32) : Builds g b none → Builds g b (some (.window (.empty size)))
  /-- A window gets a part, all of a target that is added for it. -/
  | part {b b' : Bus σ} {w : Window} {s : SubRegion} {name : String} {target : Target σ} :
    Builds g b (some (.window w)) → target.IsLeaf →
    b.addTarget name target = (b', .ok s.target) → s.targetOffset = 0 →
    Builds g b' (some (.window (w.withPart s)))
  /-- The target is added, and shown. -/
  | shown {b b' : Bus σ} {name : String} {target : Target σ} {id : TargetId}
    {operations : List (Operation σ)} :
    Builds g b (some target) → b.addTarget name target = (b', .ok id) →
    (∀ o ∈ operations, o.Shows (· = id)) → Builds g (b'.run operations) none
  /-- Nothing is added or shown. -/
  | bare {b : Bus σ} (o : Operation σ) : Builds g b none → o.Shows (fun _ => False) →
    Builds g (b.perform o) none

/-! ## Machines -/

section Machines

variable {σ : Type} [DeviceModel σ] {g : Geometry} {b b' : Bus σ} {r : RegionSpec}

omit [DeviceModel σ] in
theorem Backing.isLeaf_target (backing : Backing) (size : UInt32) :
    (backing.target size : Target σ).IsLeaf := by
  cases backing <;> trivial

namespace RegionSpec

theorem addSub_builds {s : SubRegionSpec} {state state' : Bus σ × Window}
    (h : state.1.Builds g (some (.window state.2))) (added : r.addSub state s = .ok state') :
    state'.1.Builds g (some (.window state'.2)) := by
  obtain ⟨b, w⟩ := state
  unfold addSub at added
  simp only [bind_eq_ok_iff, Backing.build_eq_ok_iff, wrap_eq_ok_iff, pure, Except.pure] at added
  obtain ⟨_, ⟨-, rfl⟩, id, targeted, w', widened, ⟨⟩⟩ := added
  obtain rfl := Window.eq_withPart_of_add widened
  exact h.part (s.backing.isLeaf_target s.size) (Prod.ext rfl targeted) rfl

theorem buildTarget_builds {made : Bus σ × Option (Target σ)} (h : b.Builds g none)
    (builds : r.buildTarget b = .ok made) : made.1.Builds g made.2 := by
  unfold buildTarget at builds
  split at builds
  · cases builds
    exact h
  · rename_i backing _
    simp only [bind_eq_ok_iff, Backing.build_eq_ok_iff, pure, Except.pure] at builds
    obtain ⟨_, ⟨-, rfl⟩, ⟨⟩⟩ := builds
    exact h.leaf (backing.isLeaf_target r.size)
  · simp only [bind_eq_ok_iff, pure, Except.pure] at builds
    obtain ⟨state, run, ⟨⟩⟩ := builds
    exact foldlM_keeps (I := fun _ state => state.1.Builds g (some (.window state.2)))
      (fun _ _ _ _ h added => addSub_builds h added) (h.gap r.size) run

theorem populate_builds (h : b.Builds g none) (populates : r.populate b = .ok b') :
    b'.Builds g none := by
  unfold populate at populates
  rw [bind_eq_ok_iff] at populates
  obtain ⟨⟨b₁, target⟩, made, rest⟩ := populates
  have parts : b₁.Builds g target := buildTarget_builds h made
  cases target with
  | none =>
    simp only [bind_eq_ok_iff, pure, Except.pure] at rest
    obtain ⟨_, -, ⟨⟩⟩ := rest
    exact parts.bare (.unmapRange r.start r.size) trivial
  | some target =>
    simp only [bind_eq_ok_iff, wrap_eq_ok_iff, pure, Except.pure] at rest
    obtain ⟨id, targeted, _, -, ⟨⟩⟩ := rest
    have shows : ∀ o ∈ [Operation.mapRange r.start r.size
        { target := id, perms := r.perms, region := r.region, caps := r.caps,
          deviceId := r.deviceId }], o.Shows (σ := σ) (· = id) :=
      List.forall_mem_singleton.mpr ⟨rfl, rfl⟩
    exact parts.shown (Prod.ext rfl targeted) shows

end RegionSpec

/-- A machine is built on a bus of the geometry of its profile. -/
theorem Bus.ofProfile_builds {p : MachineProfile} (accepted : Bus.ofProfile p = .ok b) :
    ∃ g : Geometry, g.addressBits = p.addressBits.toNat ∧ b.Builds g none := by
  obtain ⟨g, ⟨bits, -⟩, -, populates⟩ := ofProfile_eq_ok_iff.mp accepted
  refine ⟨g, bits, foldlM_keeps (I := fun _ b => b.Builds g none) ?_ .empty populates⟩
  exact fun _ _ _ _ h populates => RegionSpec.populate_builds h populates

end Machines

/-! ## Sessions -/

namespace Session

variable {g : Geometry} {bus bus' : Bus SwitchBank}

theorem addLayer_builds {l : LayerSpec} (h : bus.Builds g none)
    (added : addLayer bus l = .ok bus') : bus'.Builds g none := by
  unfold addLayer at added
  simp only [bind_eq_ok_iff, busOk_eq_ok_iff, pure, Except.pure] at added
  obtain ⟨⟨b₁, id⟩, targeted, ⟨b₂, _⟩, created, ⟨b₃, _⟩, placed, ⟨b₄, _⟩, saved, ⟨⟩⟩ := added
  dsimp only at targeted created placed saved
  obtain rfl := congrArg Prod.fst created
  obtain rfl := congrArg Prod.fst placed
  obtain rfl := congrArg Prod.fst saved
  have shows : ∀ o ∈ [Operation.createLayer l.name l.priority,
      .setLayerMapping l.name (l.mapping id)], o.Shows (σ := SwitchBank) (· = id) :=
    List.forall_mem_cons.mpr ⟨trivial, List.forall_mem_singleton.mpr ⟨rfl, rfl⟩⟩
  have leaf : bus.Builds g (some (.ram (.filled l.size.toNat l.fill))) := h.leaf trivial
  exact (leaf.shown targeted shows).bare (.saveBase _ _) trivial

theorem addBlock_builds {state state' : Bus SwitchBank × Registry} {s : SwitchBlock}
    (h : state.1.Builds g none) (added : addBlock state s = .ok state') :
    state'.1.Builds g none := by
  obtain ⟨bus, devices⟩ := state
  obtain ⟨bus', devices'⟩ := state'
  unfold addBlock at added
  simp only [bind_eq_ok_iff, busOk_eq_ok_iff, pure, Except.pure] at added
  obtain ⟨table, -, ⟨b₁, id⟩, targeted, ⟨r₁, device⟩, -, ⟨r₂, _⟩, -, ⟨b₂, _⟩, mapped, ⟨⟩⟩ := added
  dsimp only at targeted mapped
  obtain rfl := congrArg Prod.fst mapped
  have shows : ∀ o ∈ [Operation.mapRange s.start s.size
      { target := id, perms := .readWrite, region := .io, deviceId := device }],
      o.Shows (σ := SwitchBank) (· = id) :=
    List.forall_mem_singleton.mpr ⟨rfl, rfl⟩
  have leaf : bus.Builds g (some (.device { table := table })) := h.leaf trivial
  exact leaf.shown targeted shows

theorem showNamed_builds {l : LayerSpec} (h : bus.Builds g none)
    (activated : showNamed bus l = .ok bus') : bus'.Builds g none := by
  obtain rfl := congrArg Prod.fst (showNamed_eq_ok_iff.mp activated)
  exact h.bare (.activateNamed l.name) trivial

/-- A session is built on a bus of the geometry of its profile. -/
theorem build_builds {p : MonitorProfile} {trace : Option ℕ} {s : Session}
    (built : build p trace = .ok s) :
    ∃ g : Geometry, g.addressBits = p.machine.addressBits.toNat ∧ s.bus.Builds g none := by
  obtain ⟨base, bus₁, blocked, bus₃, stages⟩ := build_stages built
  obtain ⟨g, bits, h⟩ := Bus.ofProfile_builds stages.accepted
  refine ⟨g, bits, ?_⟩
  have h₁ : bus₁.Builds g none := foldlM_keeps (I := fun _ bus => bus.Builds g none)
    (fun _ _ _ _ h added => addLayer_builds h added) h stages.layers
  obtain ⟨devices, blocks⟩ := stages.blocks
  have h₂ : blocked.1.Builds g none := foldlM_keeps (I := fun _ state => state.1.Builds g none)
    (fun _ _ _ _ h added => addBlock_builds h added) h₁ blocks
  have h₃ : bus₃.Builds g none := foldlM_keeps (I := fun _ bus => bus.Builds g none)
    (fun _ _ _ _ h activated => showNamed_builds h activated) h₂ stages.active
  obtain same | ⟨capacity, same⟩ := stages.traced
  · rwa [same]
  · rw [same]
    exact h₃.bare (.enableTrace capacity) trivial

end Session
end Backplane
