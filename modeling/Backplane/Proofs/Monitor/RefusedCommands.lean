import Mathlib
import Backplane.Proofs.Bus.Answering
import Backplane.Proofs.Monitor.Build
import Backplane.Proofs.Monitor.Run
import Backplane.Proofs.Monitor.Spelling

/-!
# Refused commands

A command that a line tells is refused for one of two reasons: it names no layer of
the profile, or it asks for a dump that leaves the address space. It is never refused
for its width, since lines tell no others than a bus has, nor because base entries are
not saved: a session saves those under every layer when it is built, and neither
commands nor switches ever change which are saved (`Showable`, `SameButShown`).

The main statement is `execute_error_iff`.
-/

namespace Backplane

/-! ## Widths -/

namespace Command

/-- A processor access that the command asks for has one of the widths of a bus. -/
def Sized : Command → Prop
  | read _ bits | write _ _ bits => ∃ width, Width.ofBits bits = .ok width
  | dump _ _ | peek _ | poke _ _ | regions | layers | layer _ _ | trace _ | events | devices
  | help => True

/-- No line tells a command of another width. -/
theorem sized_of_parse {line : String} {c : Command} (parsed : parse line = .ok c) : c.Sized := by
  have wellFormed := wellFormed_of_parse parsed
  cases c with
  | read | write =>
    rcases wellFormed with rfl | rfl | rfl
    · exact ⟨.byte, rfl⟩
    · exact ⟨.half, rfl⟩
    · exact ⟨.word, rfl⟩
  | dump | peek | poke | regions | layers | layer | trace | events | devices | help => trivial

end Command

/-! ## Layers that may be shown -/

namespace AddressMap

variable {m m' : AddressMap}

/-- Every layer may be shown, and there are few enough to tell them apart by id. -/
structure Showable (m : AddressMap) : Prop where
  few : m.layers.size ≤ maxLayers
  mayShow : ∀ i < m.layers.size, m.mayShow i = true

theorem SameButShown.names_eq (same : m.SameButShown m') : m'.names = m.names := by
  have named (m : AddressMap) : m.names = (m.layers.toList.map Layer.hidden).map Layer.name := by
    rw [names, List.map_map]
    rfl
  rw [named, named, same.hidden]

theorem Showable.congr (h : m.Showable) (same : m.SameButShown m') : m'.Showable where
  few := same.size_layers ▸ h.few
  mayShow i lt := by
    rw [same.mayShow]
    exact h.mayShow i (same.size_layers ▸ lt)

/-- A layer is found by its name. -/
theorem named_of_mem (few : m.layers.size ≤ maxLayers) {name : String} (mem : name ∈ m.names) :
    ∃ id, m.named name = .ok id ∧ id.index < m.layers.size := by
  unfold named layerId?
  cases position : m.layers.findIdx? fun l => l.name = name with
  | none =>
    obtain ⟨l, hl, rfl⟩ := List.mem_map.mp mem
    have unequal := Array.findIdx?_eq_none_iff.mp position l (Array.mem_toList_iff.mp hl)
    exact absurd rfl (of_decide_eq_false unequal)
  | some i =>
    obtain ⟨lt, -⟩ := Array.findIdx?_eq_some_iff_findIdx_eq.mp position
    refine ⟨.ofIndex i, rfl, ?_⟩
    rwa [LayerId.index_ofIndex (Nat.lt_of_lt_of_le lt few)]

theorem named_of_not_mem {name : String} (unknown : name ∉ m.names) :
    m.named name = .error (.unknownLayer name) := by
  have none : (m.layers.findIdx? fun l => l.name = name) = none := by
    refine Array.findIdx?_eq_none_iff.mpr fun l hl => decide_eq_false ?_
    rintro rfl
    exact unknown (List.mem_map_of_mem (Array.mem_toList_iff.mpr hl))
  rw [named, layerId?, none]
  rfl

theorem activate_of_mayShow {id : LayerId} (may : m.mayShow id.index = true) :
    (m.activate id).2 = .ok () := by
  obtain ⟨l, here, saved⟩ := (m.mayShow_iff _).mp may
  unfold activate
  rw [layer?_eq, here]
  dsimp only
  split
  · rfl
  · rw [m.unsaved?_eq_none_iff.mpr saved]

theorem deactivate_of_lt {id : LayerId} (lt : id.index < m.layers.size) :
    (m.deactivate id).2 = .ok () := by
  unfold deactivate
  rw [layer?, Array.getElem?_eq_getElem lt]
  dsimp only
  split <;> rfl

end AddressMap

namespace Bus

variable {σ : Type} {b : Bus σ} {name : String}

/-- A layer of that name is shown or hidden. -/
theorem setActive_of_mem (h : b.map.Showable) (mem : name ∈ b.map.names) (on : Bool) :
    (if on then b.activateNamed name else b.deactivateNamed name).2 = .ok () := by
  obtain ⟨id, found, lt⟩ := AddressMap.named_of_mem h.few mem
  rw [activateNamed, deactivateNamed, found]
  cases on with
  | true => exact AddressMap.activate_of_mayShow (h.mayShow _ lt)
  | false => exact AddressMap.deactivate_of_lt lt

/-- No layer has that name. -/
theorem setActive_of_not_mem (unknown : name ∉ b.map.names) (on : Bool) :
    (if on then b.activateNamed name else b.deactivateNamed name) =
      (b, .error (.unknownLayer name)) := by
  rw [activateNamed, deactivateNamed, AddressMap.named_of_not_mem unknown]
  cases on <;> rfl

theorem activateNamed_sameButShown (b : Bus σ) (name : String) :
    b.map.SameButShown (b.activateNamed name).1.map := by
  unfold activateNamed
  cases b.map.named name with
  | error e => exact .refl _
  | ok id => exact b.map.command_sameButShown (.activate id)

theorem deactivateNamed_sameButShown (b : Bus σ) (name : String) :
    b.map.SameButShown (b.deactivateNamed name).1.map := by
  unfold deactivateNamed
  cases b.map.named name with
  | error e => exact .refl _
  | ok id => exact b.map.command_sameButShown (.deactivate id)

theorem transfer_sameButShown [DeviceModel σ] (b : Bus σ) (t : Transfer) :
    b.map.SameButShown (b.transfer t).map := by
  rw [transfer_eq_foldl]
  exact b.transactions_sameButShown t.transactions

end Bus

/-! ## Sessions -/

namespace Session

/-- Commands change of the layers only which are shown. -/
theorem execute_sameButShown (s : Session) (c : Command) :
    s.bus.map.SameButShown (s.execute c).1.bus.map := by
  rw [(s.execute_bus c).1]
  cases operation : s.operation? c with
  | none => exact .refl _
  | some o =>
    rcases s.operation?_cases operation with ⟨t, rfl⟩ | ⟨name, rfl⟩ | ⟨name, rfl⟩ | rfl
    · exact s.bus.transfer_sameButShown t
    · exact s.bus.activateNamed_sameButShown name
    · exact s.bus.deactivateNamed_sameButShown name
    · exact .refl _

theorem after_sameButShown (s : Session) (cs : List Command) :
    s.bus.map.SameButShown (s.after cs).bus.map := by
  induction cs generalizing s with
  | nil => exact .refl _
  | cons c cs ih => exact (s.execute_sameButShown c).trans (ih _)

/-- A session may show all layers of its profile, and has no others. -/
theorem build_showable {p : MonitorProfile} {trace : Option Nat} {s : Session}
    (few : p.layers.length ≤ maxLayers) (built : build p trace = .ok s) :
    s.bus.map.Showable ∧ s.bus.map.names = p.layers.map LayerSpec.name := by
  obtain ⟨base, o, -, composed⟩ := build_composed few built
  have layers := composed.realizes.layers
  have size : s.bus.map.layers.size = p.layers.length := by
    rw [← composed.length_layers, ← layers, Array.length_toList]
  refine ⟨⟨size ▸ few, ?_⟩, ?_⟩
  · intro i lt
    have here : s.bus.map.layers.toList[i]? = some s.bus.map.layers[i] := by
      rw [Array.getElem?_toList, Array.getElem?_eq_getElem lt]
    refine (s.bus.map.mayShow_iff i).mpr ⟨_, here, fun page hp => ?_⟩
    refine (composed.realizes.kept_iff page).mp (composed.kept _ ?_ page hp)
    rw [← layers]
    exact List.mem_of_getElem? here
  · have flags := congrArg (List.map Prod.fst) composed.flags
    rwa [List.map_map, List.map_map] at flags

end Session

/-- Why a command of a session of the profile is refused. -/
inductive MonitorProfile.Refuses (p : MonitorProfile) : Command → MonitorError → Prop
  /-- It names no layer of the profile. -/
  | unknownLayer {name : String} {on : Bool} : name ∉ p.layers.map LayerSpec.name →
    Refuses p (.layer name on) (.bus (.unknownLayer name))
  /-- It is a dump that leaves the address space. -/
  | dumpOutOfRange {start length : UInt32} :
    2 ^ p.machine.addressBits.toNat < start.toNat + length.toNat →
    Refuses p (.dump start length)
      (.dumpOutOfRange start length (2 ^ p.machine.addressBits.toNat))

namespace Session

variable {p : MonitorProfile} {trace : Option Nat} {s : Session} {e : MonitorError} {t : Session}

theorem dump_error_iff (space : s.bus.geometry.spaceSize = 2 ^ p.machine.addressBits.toNat)
    {start length : UInt32} :
    s.dump start length = (t, .error e) ↔ p.Refuses (.dump start length) e ∧ t = s := by
  unfold dump
  rw [space]
  by_cases outside : 2 ^ p.machine.addressBits.toNat < start.toNat + length.toNat
  · rw [if_pos outside]
    constructor
    · rintro ⟨⟩
      exact ⟨.dumpOutOfRange outside, rfl⟩
    · rintro ⟨⟨⟩, rfl⟩
      rfl
  · rw [if_neg outside]
    constructor
    · rintro ⟨⟩
    · rintro ⟨refuses, -⟩
      cases refuses with
      | dumpOutOfRange beyond => exact absurd beyond outside

theorem setLayer_error_iff (h : s.bus.map.Showable)
    (names : s.bus.map.names = p.layers.map LayerSpec.name) {name : String} {on : Bool} :
    s.setLayer name on = (t, .error e) ↔ p.Refuses (.layer name on) e ∧ t = s := by
  by_cases mem : name ∈ s.bus.map.names
  · have done := Bus.setActive_of_mem h mem on
    unfold setLayer
    generalize (if on then s.bus.activateNamed name else s.bus.deactivateNamed name) = x at done ⊢
    obtain ⟨bus, result⟩ := x
    obtain rfl : result = .ok () := done
    constructor
    · rintro ⟨⟩
    · rintro ⟨refuses, -⟩
      cases refuses with
      | unknownLayer unknown => exact absurd (names ▸ mem) unknown
  · unfold setLayer
    rw [Bus.setActive_of_not_mem mem]
    constructor
    · rintro ⟨⟩
      exact ⟨.unknownLayer (names ▸ mem), rfl⟩
    · rintro ⟨⟨⟩, rfl⟩
      rfl

/-- An access of a width that the bus has is not refused. -/
theorem processorAccess_ok (s : Session) (address : UInt32) (intent : Intent) {bits : UInt8}
    (sized : ∃ width, Width.ofBits bits = .ok width) :
    ∃ next, s.processorAccess address intent bits = .ok next := by
  obtain ⟨width, ok⟩ := sized
  rw [processorAccess, ok]
  exact ⟨_, rfl⟩

theorem read_ok (s : Session) (address : UInt32) {bits : UInt8}
    (sized : ∃ width, Width.ofBits bits = .ok width) :
    ∃ text, (s.read address bits).2 = .ok text := by
  obtain ⟨⟨s', access⟩, counted⟩ := s.processorAccess_ok address .dataRead sized
  rw [read, counted]
  dsimp only
  split <;> exact ⟨_, rfl⟩

theorem write_ok (s : Session) (address value : UInt32) {bits : UInt8}
    (sized : ∃ width, Width.ofBits bits = .ok width) :
    ∃ text, (s.write address value bits).2 = .ok text := by
  obtain ⟨⟨s', access⟩, counted⟩ := s.processorAccess_ok address .dataWrite sized
  rw [write, counted]
  dsimp only
  split <;> exact ⟨_, rfl⟩

theorem peek_ok (s : Session) (address : UInt32) : ∃ text, (s.peek address).2 = .ok text := by
  unfold peek
  split <;> exact ⟨_, rfl⟩

/-- An answer that is a text is no refusal. -/
theorem not_refused {outcome : Session × Except MonitorError String} {text : String}
    (done : outcome.2 = .ok text) : outcome ≠ (t, .error e) := by
  rintro rfl
  cases done

/-- A command that a line tells is refused if it names no layer of the profile or is a
dump that leaves the address space, for that reason and for no other, whatever
commands came before it; and one that is refused leaves the session as it was. -/
theorem execute_error_iff (few : p.layers.length ≤ maxLayers) (built : build p trace = .ok s)
    (cs : List Command) {line : String} {c : Command} (parsed : Command.parse line = .ok c) :
    (s.after cs).execute c = (t, .error e) ↔ p.Refuses c e ∧ t = s.after cs := by
  obtain ⟨showable, names⟩ := build_showable few built
  obtain ⟨g, bits, leads⟩ := build_leads built
  have same := s.after_sameButShown cs
  have space : (s.after cs).bus.geometry.spaceSize = 2 ^ p.machine.addressBits.toNat := by
    rw [(s.after_leads cs).geometry_eq, leads.geometry_eq, ← bits]
    exact Nat.one_shiftLeft _
  have sized := Command.sized_of_parse parsed
  have accepted (text : String) (done : ((s.after cs).execute c).2 = .ok text)
      (never : ¬p.Refuses c e) :
      (s.after cs).execute c = (t, .error e) ↔ p.Refuses c e ∧ t = s.after cs :=
    iff_of_false (not_refused done) fun refused => never refused.1
  cases c with
  | dump start length => exact dump_error_iff space
  | layer name on => exact setLayer_error_iff (showable.congr same) (same.names_eq.trans names)
  | peek address =>
    obtain ⟨text, done⟩ := (s.after cs).peek_ok address
    exact accepted text done nofun
  | read address bits =>
    obtain ⟨text, done⟩ := (s.after cs).read_ok address sized
    exact accepted text done nofun
  | write address value bits =>
    obtain ⟨text, done⟩ := (s.after cs).write_ok address value sized
    exact accepted text done nofun
  | poke | regions | layers | trace | events | devices | help => exact accepted _ rfl nofun

/-- A switch is uncovered and fired, and shows the third layer. -/
def uncovered : List Command := [.layer "second" false, .read 0x83 8]

theorem execute_error_iff_layered :
    ∃ s, build layered none = .ok s ∧ layered.layers.length ≤ maxLayers ∧
      Command.parse "layer fourth on" = .ok (.layer "fourth" true) ∧
      Command.parse "DUMP $F0 20" = .ok (.dump 0xf0 0x20) ∧
      Command.parse "layer third off" = .ok (.layer "third" false) ∧
      (s.after uncovered).execute (.layer "fourth" true) =
        (s.after uncovered, .error (.bus (.unknownLayer "fourth"))) ∧
      (s.after uncovered).execute (.dump 0xf0 0x20) =
        (s.after uncovered, .error (.dumpOutOfRange 0xf0 0x20 0x100)) ∧
      ∀ t e, (s.after uncovered).execute (.layer "third" false) ≠ (t, .error e) := by
  have few : layered.layers.length ≤ maxLayers := by decide
  have fourth : Command.parse "layer fourth on" = .ok (.layer "fourth" true) := by decide_cbv
  have beyond : Command.parse "DUMP $F0 20" = .ok (.dump 0xf0 0x20) := by decide_cbv
  have third : Command.parse "layer third off" = .ok (.layer "third" false) := by decide_cbv
  have built : (build layered none).isOk = true := by decide_cbv
  cases session : build layered none with
  | error cause =>
    rw [session] at built
    cases built
  | ok s =>
    refine ⟨s, rfl, few, fourth, beyond, third, ?_, ?_, ?_⟩
    · exact (execute_error_iff few session uncovered fourth).mpr
        ⟨.unknownLayer (by decide), rfl⟩
    · exact (execute_error_iff few session uncovered beyond).mpr
        ⟨.dumpOutOfRange (by decide), rfl⟩
    · intro t e refused
      cases ((execute_error_iff few session uncovered third).mp refused).1 with
      | unknownLayer unknown => exact unknown (by decide)

end Session
end Backplane
