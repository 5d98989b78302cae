import Mathlib
import Backplane.Device.Switch
import Backplane.Proofs.Bus.Bounds
import Backplane.Proofs.Bus.Isolation

/-!
# Permissions of pages

The intent of an access says which permission it needs, and the page that answers
a byte must grant that one, whether the byte is read or written: what is done is
up to the entry point, and the page checks do not ask for it. A debug write needs
no permission at all.

The bytes of an atomic access lie on one page, which is checked once. Those of a
decomposed one are checked one after the other, and the layers may change between
two of them, so each has its own bus that answers it (`beforeRead`,
`beforeWrite`). The main statement is `granted_by_intent`.
-/

namespace Backplane

/-- The bytes of an aligned access lie one after the other in the target of its page. -/
theorem PageTable.lookup_lane {t : PageTable} {address : UInt32} {width : Width}
    {entry : PageEntry} {offset : UInt32} {k : Nat}
    (here : t.lookup address = some (entry, offset))
    (aligned : address.toNat % width.bytes = 0) (lt : k < width.bytes) :
    t.lookup (address + k.toUInt32) = some (entry, offset + k.toUInt32) := by
  obtain ⟨page, index, shown, rfl⟩ := lookup_eq_some_iff.mp here
  have inside : t.geometry.contains address = true := by
    refine Decidable.of_not_not fun outside => ?_
    rw [Geometry.pageIndex, if_neg outside] at index
    cases index
  refine lookup_eq_some_iff.mpr
    ⟨page, (t.geometry.pageIndex_add aligned inside lt).trans index, shown, ?_⟩
  rw [t.geometry.pageOffset_add aligned lt, UInt32.add_assoc]

/-- Among answers without a fault, each is a success. -/
theorem exists_of_faultless {α : Type} {results : List (Except Fault α)}
    (faultless : results.filterMap faultOf = []) {result : Except Fault α}
    (mem : result ∈ results) : ∃ value, result = .ok value := by
  have sound := List.filterMap_eq_nil_iff.mp faultless result mem
  cases result with
  | ok value => exact ⟨value, rfl⟩
  | error fault => cases sound

theorem ByteReads.faults_of_value {r : ByteReads} {value : UInt32} (done : r.value = .ok value) :
    r.faults = [] := by
  unfold ByteReads.value at done
  split at done
  · cases done
  · assumption

theorem ByteWrites.faults_of_outcome {w : ByteWrites} (done : w.outcome = .ok ()) :
    w.faults = [] := by
  unfold ByteWrites.outcome at done
  split at done
  · cases done
  · assumption

@[simp] theorem Access.address_lane_zero (a : Access) : (a.lane 0).address = a.address := by
  simp [Access.lane]

namespace Bus

variable {σ : Type}

/-! ## What a page grants -/

/-- The page that answers `address` grants these permissions. -/
def Grants (b : Bus σ) (address : UInt32) (perms : Perms) : Prop :=
  ∃ entry offset, b.map.table.lookup address = some (entry, offset) ∧
    entry.perms.contains perms = true

instance (b : Bus σ) (address : UInt32) (perms : Perms) : Decidable (b.Grants address perms) :=
  decidable_of_iff
    ((b.map.table.lookup address).any fun found => found.1.perms.contains perms) <| by
      simp [Grants, Option.any_eq_true]

variable [DeviceModel σ] {b : Bus σ} {a : Access}

/-- The bus that answers byte `k` of a read. -/
def beforeRead (b : Bus σ) (a : Access) (k : Nat) : Bus σ :=
  match a.mode with
  | .atomic => b
  | .decomposed => (b.readMany a k).1

/-- The bus that answers byte `k` of a write. -/
def beforeWrite (b : Bus σ) (a : Access) (k : Nat) : Bus σ :=
  match a.mode with
  | .atomic => b
  | .decomposed =>
    (b.writeMany a (((List.range a.width.bytes).map (Access.valueByte a.value)).take k)).1

/-- Every byte that a read of `a` gets, as an access or byte by byte, is on a page
that grants `perms` when it is asked. -/
structure ReadsWith (b : Bus σ) (a : Access) (perms : Perms) : Prop where
  access : ∀ value, (b.read a).2 = .ok value → ∀ k < a.width.bytes,
    (b.beforeRead a k).Grants (a.lane k).address perms
  bytes : ∀ count k value, (b.readMany a count).2.bytes[k]? = some (.ok value) →
    (b.readMany a k).1.Grants (a.lane k).address perms

/-- Every byte that a write of `a` stores, as an access or byte by byte, is on a
page that grants `perms` when it is asked. -/
structure WritesWith (b : Bus σ) (a : Access) (perms : Perms) : Prop where
  access : (b.write a).2 = .ok () → ∀ k < a.width.bytes,
    (b.beforeWrite a k).Grants (a.lane k).address perms
  bytes : ∀ bytes k, (b.writeMany a bytes).2.results[k]? = some (.ok ()) →
    (b.writeMany a (bytes.take k)).1.Grants (a.lane k).address perms

/-! ## One transaction -/

omit [DeviceModel σ] in
/-- The page checks let no access pass that its page does not grant, on none of its
bytes. -/
theorem grants_of_resolve {r : Resolved} (plain : a.intent ≠ .debugWrite)
    (resolved : b.resolve a = .ok r) {k : Nat} (lt : k < a.width.bytes) :
    b.Grants (a.lane k).address a.intent.required := by
  obtain ⟨looked, -, granted, -⟩ := resolve_eq_ok_iff.mp resolved
  have perms : r.entry.perms.contains a.intent.required = true := by
    unfold checkPermission at granted
    split at granted
    · rename_i allowed
      exact allowed.resolve_left plain
    · split at granted <;> cases granted
  exact ⟨r.entry, _, PageTable.lookup_lane looked (aligned_of_resolve resolved) lt, perms⟩

theorem grants_of_readAtomic (plain : a.intent ≠ .debugWrite) {value : UInt32}
    (done : (b.readAtomic a).2 = .ok value) {k : Nat} (lt : k < a.width.bytes) :
    b.Grants (a.lane k).address a.intent.required := by
  rw [readAtomic_eq, servedRead] at done
  split at done
  · cases done
  · rename_i resolved
    exact grants_of_resolve plain resolved lt

theorem grants_of_writeAtomic (plain : a.intent ≠ .debugWrite)
    (done : (b.writeAtomic a).2 = .ok ()) {k : Nat} (lt : k < a.width.bytes) :
    b.Grants (a.lane k).address a.intent.required := by
  rw [writeAtomic_eq, servedWrite] at done
  split at done
  · cases done
  · rename_i resolved
    exact grants_of_resolve plain resolved lt

/-! ## Bytes one after the other -/

theorem grants_of_readMany (plain : a.intent ≠ .debugWrite) {count k : Nat} {value : UInt8}
    (done : (b.readMany a count).2.bytes[k]? = some (.ok value)) :
    (b.readMany a k).1.Grants (a.lane k).address a.intent.required := by
  have lt : k < count := by
    obtain ⟨lt, -⟩ := List.getElem?_eq_some_iff.mp done
    rwa [length_readMany] at lt
  rw [b.readMany_getElem? a lt, ← readMany_fst, Option.some.injEq] at done
  cases answer : ((b.readMany a k).1.readAtomic (a.lane k)).2 with
  | error fault =>
    rw [answer] at done
    cases done
  | ok word =>
    have granted := grants_of_readAtomic (a := a.lane k) plain answer (k := 0) Nat.one_pos
    rwa [Access.address_lane_zero] at granted

theorem grants_of_writeMany (plain : a.intent ≠ .debugWrite) {bytes : List UInt8} {k : Nat}
    (done : (b.writeMany a bytes).2.results[k]? = some (.ok ())) :
    (b.writeMany a (bytes.take k)).1.Grants (a.lane k).address a.intent.required := by
  rw [b.writeMany_getElem?, ← writeMany_fst, Option.map_eq_some_iff] at done
  obtain ⟨byte, -, answer⟩ := done
  have granted := grants_of_writeAtomic (a := { a.lane k with value := byte.toUInt32 }) plain
    answer (k := 0) Nat.one_pos
  rwa [Access.address_lane_zero] at granted

/-! ## Accesses -/

/-- Permissions are enforced by intent: but for a debug write, no byte is got or
stored on a page that does not grant what the intent requires, whichever the entry
point, the width, the mode and the flags. -/
theorem granted_by_intent (b : Bus σ) (a : Access) (plain : a.intent ≠ .debugWrite) :
    b.ReadsWith a a.intent.required ∧ b.WritesWith a a.intent.required := by
  refine ⟨⟨?_, fun _ _ _ => grants_of_readMany plain⟩,
    ⟨?_, fun _ _ => grants_of_writeMany plain⟩⟩
  · intro value done k lt
    rw [read] at done
    rw [beforeRead]
    cases mode : a.mode with
    | atomic =>
      rw [mode] at done
      exact grants_of_readAtomic plain done lt
    | decomposed =>
      rw [mode] at done
      have here := b.readMany_getElem? a lt
      obtain ⟨byte, answer⟩ := exists_of_faultless (ByteReads.faults_of_value done)
        (List.mem_of_getElem? here)
      exact grants_of_readMany plain (answer ▸ here)
  · intro done k lt
    rw [write] at done
    rw [beforeWrite]
    cases mode : a.mode with
    | atomic =>
      rw [mode] at done
      exact grants_of_writeAtomic plain done lt
    | decomposed =>
      rw [mode] at done
      refine grants_of_writeMany plain ?_
      have here :=
        b.writeMany_getElem? a ((List.range a.width.bytes).map (Access.valueByte a.value)) k
      rw [List.getElem?_map, List.getElem?_range lt, Option.map_some, Option.map_some] at here
      obtain ⟨⟨⟩, answer⟩ := exists_of_faultless (ByteWrites.faults_of_outcome done)
        (List.mem_of_getElem? here)
      exact answer ▸ here

/-- A switch on page 0 shows layer 0, which leads page 1, where memory only reads,
to the same memory with writes. -/
def gated : Bus SwitchBank :=
  (Bus.empty smallSpace).run
    [.addTarget "switch" (.device { table := ⟨#[{}, {}, {}, { write := .activate ⟨0⟩ }]⟩ }),
     .addTarget "ram" (.ram (.filled 4 17)),
     .mapRange 0 4 { target := ⟨0⟩, perms := .readWrite, region := .io },
     .mapRange 4 4 { target := ⟨1⟩, perms := .read, region := .ram },
     .createLayer "open" 0,
     .setLayerMapping "open" { base := 4, target := ⟨1⟩, perms := .write },
     .saveBase 1 1]

/-- The second byte of a write is stored with a permission that its page has since
the first. -/
theorem granted_by_intent_gated :
    let a : Access :=
      { address := 3, value := 0xBEEF, width := .half, mode := .decomposed, intent := .dataWrite }
    gated.Reachable ∧ a.intent ≠ .debugWrite ∧ (gated.write a).2 = .ok () ∧
      ¬gated.Grants 4 .write ∧ (gated.beforeWrite a 1).Grants 4 .write := by
  intro a
  have plain : a.intent ≠ .debugWrite := by decide
  have done : (gated.write a).2 = .ok () := by cbv
  exact ⟨(Reachable.empty smallSpace).run _, plain, done, by decide_cbv,
    (granted_by_intent gated a plain).2.access done 1 (by decide)⟩

/-- Memory that only reads on page 0, that only writes on page 1, and that does
neither on page 2. -/
def restricted : Bus SwitchBank :=
  (Bus.empty smallSpace).run
    [.addTarget "ram" (.ram (.filled 4 17)),
     .mapRange 0 4 { target := ⟨0⟩, perms := .read, region := .ram },
     .mapRange 4 4 { target := ⟨0⟩, perms := .write, region := .ram },
     .mapRange 8 4 { target := ⟨0⟩, perms := .none, region := .ram }]

/-- The operation is not asked about: a write with the intent of a read needs no
permission to write, a read with the intent of a write none to read, and a read
with the intent of a debug write none at all. -/
theorem operation_not_asked :
    (¬∀ (b : Bus SwitchBank) (a : Access), b.Reachable → a.intent ≠ .debugWrite →
      b.WritesWith a .write) ∧
    (¬∀ (b : Bus SwitchBank) (a : Access), b.Reachable → a.intent ≠ .debugWrite →
      b.ReadsWith a (if a.intent = .instructionFetch then .execute else .read)) ∧
    ¬∀ (b : Bus SwitchBank) (a : Access), b.Reachable → a.intent = .debugWrite →
      b.ReadsWith a .read := by
  have reachable : restricted.Reachable := (Reachable.empty smallSpace).run _
  refine ⟨?_, ?_, ?_⟩
  · intro asked
    have written := asked restricted { address := 0, value := 34, intent := .dataRead } reachable
      (by decide)
    exact absurd (written.access (by cbv) 0 (by decide)) (by decide_cbv)
  · intro asked
    have read := asked restricted { address := 4, intent := .dataWrite } reachable (by decide)
    exact absurd (read.access 17 (by cbv) 0 (by decide)) (by decide_cbv)
  · intro asked
    have read := asked restricted { address := 8, intent := .debugWrite } reachable rfl
    exact absurd (read.access 17 (by cbv) 0 (by decide)) (by decide_cbv)

end Bus
end Backplane
