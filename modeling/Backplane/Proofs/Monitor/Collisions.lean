import Mathlib
import Backplane.Proofs.Monitor.Devices

/-!
# Pages that collide

A block of switches is registered as the owner of its page, by a page id that has eight bits
for the page. So blocks of switches on different pages are taken for owners of one page, and
the second is refused, just if the low eight bits of their pages agree
(`build_tells_low_pages_apart`). In a space of more than 256 pages there are such pages.
-/

namespace Backplane

/-! ## Where a step fails -/

theorem bind_eq_error_iff {ε α β : Type} {x : Except ε α} {f : α → Except ε β} {e : ε} :
    x >>= f = .error e ↔ x = .error e ∨ ∃ a, x = .ok a ∧ f a = .error e := by
  cases x with
  | error cause =>
    have same : (.error cause : Except ε α) >>= f = .error cause := rfl
    rw [same, Except.error.injEq, Except.error.injEq, or_iff_left]
    rintro ⟨a, ⟨⟩, -⟩
  | ok a =>
    constructor
    · exact fun failed => .inr ⟨a, rfl, failed⟩
    · rintro (⟨⟨⟩⟩ | ⟨_, ⟨⟩, failed⟩)
      exact failed

/-- A fold that fails does so at one item, after steps that succeed. -/
theorem foldlM_eq_error {α β ε : Type} {step : β → α → Except ε β} {xs : List α} {y : β} {e : ε}
    (failed : xs.foldlM step y = .error e) :
    ∃ before x after y', xs = before ++ x :: after ∧ before.foldlM step y = .ok y' ∧
      step y' x = .error e := by
  induction xs generalizing y with
  | nil => cases failed
  | cons x xs ih =>
    rw [List.foldlM_cons, bind_eq_error_iff] at failed
    rcases failed with here | ⟨next, first, later⟩
    · exact ⟨[], x, xs, y, rfl, rfl, here⟩
    · obtain ⟨before, x', after, y', rfl, run, failed⟩ := ih later
      refine ⟨x :: before, x', after, y', rfl, ?_, failed⟩
      rw [List.foldlM_cons, first]
      exact run

/-! ## Page ids of blocks -/

/-- The low eight bits of the page of a block. -/
def SwitchBlock.lowPage (g : Geometry) (s : SwitchBlock) : ℕ := g.pageOf s.start % 256

/-- A page id has the low bits of the page, and no others. -/
theorem SwitchBlock.pageId_info (g : Geometry) (s : SwitchBlock) (device : UInt32) :
    (s.info g device).pageId = some (.compatIo (s.lowPage g).toUInt8) := by
  have low : (s.lowPage g).toUInt8 = (g.pageOf s.start).toUInt8 := by
    rw [← UInt8.toNat_inj, Nat.toUInt8, UInt8.toNat_ofNat', UInt8.toNat_ofNat', lowPage]
    exact Nat.mod_mod _ _
  rw [info, low]

theorem DevicePageId.compatIo_inj {page page' : UInt8} (same : compatIo page = compatIo page') :
    page = page' := by
  have numbers := congrArg (fun id => id.raw.toNat) same
  rw [compatIo, compatIo] at numbers
  rw [toNat_pack, toNat_pack] at numbers
  exact UInt8.toNat_inj.mp (Nat.add_left_cancel (Nat.add_left_cancel numbers))

theorem SwitchBlock.lowPage_eq_of_pageId {g : Geometry} {s t : SwitchBlock} {a b : UInt32}
    (same : (s.info g a).pageId = (t.info g b).pageId) : s.lowPage g = t.lowPage g := by
  rw [pageId_info, pageId_info, Option.some.injEq] at same
  have numbers := congrArg UInt8.toNat (DevicePageId.compatIo_inj same)
  have lt (s : SwitchBlock) : s.lowPage g < 256 := Nat.mod_lt _ (by decide)
  rwa [Nat.toUInt8, UInt8.toNat_ofNat_of_lt' (lt s),
    UInt8.toNat_ofNat_of_lt' (lt t)] at numbers

namespace Session

/-! ## What does not fail for a page -/

/-- What is not refused for a page. -/
def KeepsPages {α : Type} (result : Except MonitorError α) : Prop :=
  ∀ page, result ≠ .error (.registry (.duplicatePageId page))

namespace KeepsPages

variable {α β : Type}

theorem ok (a : α) : KeepsPages (.ok a : Except MonitorError α) := nofun

theorem bus (e : BusError) : KeepsPages (.error (.bus e) : Except MonitorError α) := nofun

theorem bind {x : Except MonitorError α} {f : α → Except MonitorError β} (h : KeepsPages x)
    (next : ∀ a, KeepsPages (f a)) : KeepsPages (x >>= f) := by
  intro page failed
  rcases bind_eq_error_iff.mp failed with failed | ⟨a, -, failed⟩
  · exact h page failed
  · exact next a page failed

theorem map {x : Except MonitorError α} (h : KeepsPages x) (f : α → β) : KeepsPages (x.map f) := by
  cases x with
  | error e =>
    rintro page ⟨⟩
    exact h page rfl
  | ok a => exact .ok (f a)

theorem foldlM {step : β → α → Except MonitorError β} (h : ∀ y x, KeepsPages (step y x))
    (xs : List α) (y : β) : KeepsPages (xs.foldlM step y) := by
  intro page failed
  obtain ⟨-, x, -, y', -, -, failed⟩ := foldlM_eq_error failed
  exact h y' x page failed

end KeepsPages

theorem keepsPages_busOk {α : Type} (r : Bus SwitchBank × Except BusError α) :
    KeepsPages (busOk r) := by
  obtain ⟨bus, e | value⟩ := r
  · exact .bus e
  · exact .ok _

theorem registryOk_eq_error {α : Type} {r : Registry × Except RegistryError α} {e : RegistryError}
    (failed : registryOk r = .error (.registry e)) : r.2 = .error e := by
  obtain ⟨after, cause | value⟩ := r
  · cases failed
    rfl
  · cases failed

theorem keepsPages_machineBus (p : MachineProfile) : KeepsPages (machineBus p) := by
  unfold machineBus
  split
  · exact .ok _
  · nofun

/-- A device that owns a region is registered without a page. -/
theorem keepsPages_registerRegion (devices : Registry) (r : RegionSpec) :
    KeepsPages (registerRegion devices r) := by
  rw [registerRegion_eq]
  split
  · exact .ok devices
  · refine KeepsPages.map (fun page failed => ?_) _
    have refused := Registry.register_eq_error (Prod.ext rfl (registryOk_eq_error failed))
    obtain ⟨-, ⟨⟨⟩, -⟩ | ⟨⟨⟩, -⟩ | ⟨_, -, ⟨⟩, -⟩⟩ := refused

theorem keepsPages_addLayer (bus : Bus SwitchBank) (l : LayerSpec) :
    KeepsPages (addLayer bus l) :=
  (keepsPages_busOk _).bind fun _ => (keepsPages_busOk _).bind fun _ =>
    (keepsPages_busOk _).bind fun _ => (keepsPages_busOk _).bind fun _ => .ok _

theorem keepsPages_showNamed (bus : Bus SwitchBank) (l : LayerSpec) :
    KeepsPages (showNamed bus l) := (keepsPages_busOk _).map _

theorem keepsPages_layerNamed (bus : Bus SwitchBank) (name : String) :
    KeepsPages (layerNamed bus name) := by
  unfold layerNamed
  split
  · exact .ok _
  · exact .bus _

theorem keepsPages_actionOf (bus : Bus SwitchBank) (op : Option SwitchOp) :
    KeepsPages (actionOf bus op) := by
  rcases op with _ | name | name | ⟨on, off⟩ | mode
  · exact .ok _
  · exact (keepsPages_layerNamed bus name).bind fun _ => .ok _
  · exact (keepsPages_layerNamed bus name).bind fun _ => .ok _
  · exact (keepsPages_layerNamed bus on).bind fun _ =>
      (keepsPages_layerNamed bus off).bind fun _ => .ok _
  · exact .ok _

theorem keepsPages_tableOk (r : Except BusError SwitchTable) : KeepsPages (tableOk r) := by
  cases r with
  | error e => exact .bus e
  | ok table => exact .ok table

theorem keepsPages_tableOf (bus : Bus SwitchBank) (s : SwitchBlock) : KeepsPages (tableOf bus s) :=
  .foldlM (fun _ _ => (keepsPages_actionOf bus _).bind fun _ => (keepsPages_tableOk _).bind fun _ =>
    (keepsPages_actionOf bus _).bind fun _ => keepsPages_tableOk _) _ _

/-! ## Blocks -/

variable {bus : Bus SwitchBank} {devices : Registry} {page : DevicePageId}

/-- A block is refused for its page only by the registry, which knows of an owner. -/
theorem addBlock_eq_error_page {s : SwitchBlock}
    (failed : addBlock (bus, devices) s = .error (.registry (.duplicatePageId page))) :
    ∃ known device, devices.generateId = (known, .ok device) ∧
      (s.info bus.geometry device).pageId = some page ∧ known.pages.lookup page ≠ none := by
  unfold addBlock at failed
  rcases bind_eq_error_iff.mp failed with failed | ⟨table, -, failed⟩
  · exact absurd failed (keepsPages_tableOf bus s page)
  rcases bind_eq_error_iff.mp failed with failed | ⟨⟨bus₁, target⟩, targeted, failed⟩
  · exact absurd failed (keepsPages_busOk _ page)
  rw [busOk_eq_ok_iff, Bus.addTarget_eq] at targeted
  split at targeted
  · cases targeted
  cases targeted
  rcases bind_eq_error_iff.mp failed with failed | ⟨⟨known, device⟩, given, failed⟩
  · have refused := registryOk_eq_error failed
    rcases devices.generateId_cases with ⟨id, next⟩ | exhausted
    · rw [next] at refused
      cases refused
    · rw [exhausted] at refused
      cases refused
  rcases bind_eq_error_iff.mp failed with failed | ⟨⟨r, u⟩, -, failed⟩
  · have refused := registryOk_eq_error failed
    obtain ⟨-, ⟨⟨⟩, -⟩ | ⟨⟨⟩, -⟩ | ⟨page', same, carried, owned⟩⟩ :=
      Registry.register_eq_error (Prod.ext rfl refused)
    cases same
    exact ⟨known, device, registryOk_eq_ok_iff.mp given, carried, owned⟩
  rcases bind_eq_error_iff.mp failed with failed | ⟨⟨bus₂, u⟩, -, failed⟩
  · exact absurd failed (keepsPages_busOk _ page)
  · cases failed

/-- A block is refused for its page only if one before it has the same low page. -/
theorem exists_of_addBlock_eq_error {g : Geometry} {regions : List RegionSpec}
    {blocks : List SwitchBlock} {s : SwitchBlock} (geometry : bus.geometry = g)
    (h : Enrolled g (owners regions) blocks devices)
    (failed : addBlock (bus, devices) s = .error (.registry (.duplicatePageId page))) :
    ∃ t ∈ blocks, t.lowPage g = s.lowPage g := by
  obtain ⟨known, device, given, carried, owned⟩ := addBlock_eq_error_page failed
  rw [geometry] at carried
  obtain ⟨ids, -, registered⟩ := h
  have knows := registered.generateId given
  have owner : ∃ info ∈ known.devices, info.pageId = some page := by
    by_contra none
    push Not at none
    exact owned (knows.consistent.lookup_eq_none_iff.mpr none)
  obtain ⟨info, mem, same⟩ := owner
  rcases List.mem_append.mp (knows.mem_iff.mp mem) with region | block
  · obtain ⟨r, -, rfl⟩ := List.mem_map.mp region
    cases same
  · obtain ⟨⟨t, id⟩, there, rfl⟩ := List.mem_map.mp block
    exact ⟨t, (List.of_mem_zip there).1, SwitchBlock.lowPage_eq_of_pageId (same.trans carried.symm)⟩

/-- Of blocks that are all added, no two have the same low page. -/
theorem Enrolled.nodup_lowPages {g : Geometry} {owners : List DeviceInfo}
    {blocks : List SwitchBlock} (h : Enrolled g owners blocks devices) :
    (blocks.map (SwitchBlock.lowPage g)).Nodup := by
  obtain ⟨ids, length, knows⟩ := h
  have mem {info : DeviceInfo} (here : info ∈ SwitchBlock.infos g blocks ids) :
      info ∈ devices.devices := knows.mem_iff.mpr (List.mem_append_right _ here)
  have nodup : (SwitchBlock.infos g blocks ids).Nodup :=
    (List.nodup_append.mp knows.nodup_ids.of_map).2.1
  have pages : (SwitchBlock.infos g blocks ids).map DeviceInfo.pageId =
      (blocks.map (SwitchBlock.lowPage g)).map fun low => some (.compatIo low.toUInt8) := by
    rw [SwitchBlock.infos, List.map_map, List.map_map]
    conv_rhs => rw [← List.map_fst_zip (le_of_eq length.symm), List.map_map]
    exact List.map_congr_left fun b _ => b.1.pageId_info g b.2
  refine List.Nodup.of_map _ (pages ▸ nodup.map_on ?_)
  intro a ha b hb same
  obtain ⟨⟨s, id⟩, -, rfl⟩ := List.mem_map.mp ha
  rw [SwitchBlock.pageId_info] at same
  exact knows.consistent.eq_of_page_eq (mem ha) (mem hb) (SwitchBlock.pageId_info ..) same.symm

/-! ## Sessions -/

/-- If a session fails to be built because a page is taken, it is a block that is refused. -/
theorem build_eq_error_page {p : MonitorProfile} {trace : Option ℕ}
    (failed : build p trace = .error (.registry (.duplicatePageId page))) :
    ∃ machine devices layered, machineBus p.machine = .ok machine ∧
      p.machine.regions.foldlM registerRegion {} = .ok devices ∧
      p.layers.foldlM addLayer machine = .ok layered ∧
      p.blocks.foldlM addBlock (layered, devices) =
        .error (.registry (.duplicatePageId page)) := by
  unfold build at failed
  rcases bind_eq_error_iff.mp failed with failed | ⟨machine, based, failed⟩
  · exact absurd failed (keepsPages_machineBus p.machine page)
  rcases bind_eq_error_iff.mp failed with failed | ⟨devices, registered, failed⟩
  · exact absurd failed (KeepsPages.foldlM keepsPages_registerRegion _ _ page)
  rcases bind_eq_error_iff.mp failed with failed | ⟨layered, added, failed⟩
  · exact absurd failed (KeepsPages.foldlM keepsPages_addLayer _ _ page)
  rcases bind_eq_error_iff.mp failed with failed | ⟨⟨bus, known⟩, -, failed⟩
  · exact ⟨machine, devices, layered, based, registered, added, failed⟩
  -- What follows only shows layers and begins a trace.
  rcases bind_eq_error_iff.mp failed with failed | ⟨shown, -, failed⟩
  · exact absurd failed (KeepsPages.foldlM keepsPages_showNamed _ _ page)
  cases trace with
  | none => cases failed
  | some capacity =>
    exact absurd failed ((keepsPages_busOk (shown.enableTrace capacity)).bind (fun _ => .ok _) page)

/-- Blocks of switches are told apart by the low eight bits of their pages: if these differ,
no session fails to be built because a page is taken, and if two agree, no session is built. -/
theorem build_tells_low_pages_apart {p : MonitorProfile} {g : Geometry}
    (valid : Geometry.ofBits p.machine.addressBits p.machine.pageShift = .ok g)
    (trace : Option ℕ) :
    ((p.blocks.map (SwitchBlock.lowPage g)).Nodup →
      ∀ page, build p trace ≠ .error (.registry (.duplicatePageId page))) ∧
    (¬(p.blocks.map (SwitchBlock.lowPage g)).Nodup → ∀ s, build p trace ≠ .ok s) := by
  constructor
  · intro apart page failed
    obtain ⟨machine, devices, layered, based, registered, added, failed⟩ :=
      build_eq_error_page failed
    obtain ⟨before, s, after, ⟨bus, known⟩, split, run, failed⟩ := foldlM_eq_error failed
    obtain ⟨geometry, enrolled⟩ := Enrolled.addBlocks (registerRegions_knows registered) run
    cases valid.symm.trans (layered_geometry (machineBus_eq_ok_iff.mp based) added)
    obtain ⟨t, mem, same⟩ := exists_of_addBlock_eq_error geometry enrolled failed
    rw [split, List.map_append, List.map_cons] at apart
    exact (List.nodup_append.mp apart).2.2 _ (List.mem_map_of_mem mem) _ List.mem_cons_self same
  · intro repeated s built
    obtain ⟨g', valid', enrolled⟩ := build_enrolled built
    cases valid.symm.trans valid'
    exact repeated enrolled.nodup_lowPages

/-- A space of 512 pages of eight bytes. -/
def manyPages : Geometry := ⟨12, 3, by omega, by omega, by omega, by omega, by omega⟩

/-- Switches on the first of 512 pages, and on the page at another address. -/
def paired (far : UInt32) : MonitorProfile where
  machine := { name := "paired", addressBits := 12, pageShift := 3, regions := [] }
  blocks :=
    [{ name := "near", start := 0, size := 8 }, { name := "far", start := far, size := 8 }]

/-- Pages 0 and 255 are told apart. -/
theorem build_tells_low_pages_apart_paired :
    Geometry.ofBits (paired 0x7f8).machine.addressBits (paired 0x7f8).machine.pageShift =
        .ok manyPages ∧
      (paired 0x7f8).blocks.map (SwitchBlock.lowPage manyPages) = [0, 255] ∧
      ∀ page, build (paired 0x7f8) none ≠ .error (.registry (.duplicatePageId page)) := by
  have valid : Geometry.ofBits (paired 0x7f8).machine.addressBits
      (paired 0x7f8).machine.pageShift = .ok manyPages := rfl
  have pages : (paired 0x7f8).blocks.map (SwitchBlock.lowPage manyPages) = [0, 255] := by decide
  refine ⟨valid, pages, (build_tells_low_pages_apart valid none).1 ?_⟩
  rw [pages]
  decide

/-- Pages 0 and 256 are not, and the space has both. -/
theorem page_taken_by_another :
    manyPages.pageCount = 512 ∧
      Geometry.ofBits (paired 0x800).machine.addressBits (paired 0x800).machine.pageShift =
        .ok manyPages ∧
      (paired 0x800).blocks.map (fun s => manyPages.pageOf s.start) = [0, 256] ∧
      build (paired 0x800) none = .error (.registry (.duplicatePageId (.compatIo 0))) := by
  refine ⟨by decide, rfl, by decide, ?_⟩
  have refused : (build (paired 0x800) none).map Session.cycle =
      .error (.registry (.duplicatePageId (.compatIo 0))) := by
    set_option maxRecDepth 10000 in decide_cbv
  cases built : build (paired 0x800) none with
  | ok s =>
    rw [built] at refused
    cases refused
  | error e =>
    rw [built] at refused
    cases refused
    rfl

end Session
end Backplane
