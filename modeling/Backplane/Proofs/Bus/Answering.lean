import Mathlib
import Backplane.Proofs.Bus.Log
import Backplane.Proofs.Overlay.Restore
import Backplane.Proofs.Overlay.Shown

/-!
# The page that a record names

A record names what occupies a page and which device owns it. It is made when the
layer commands of the transaction have been carried out, and so it names the page as
these leave it, which need not be the page that answered (`record_names_left`). It
does name the page that answered if the commands show and hide no layer over it, and
outside the space it names nothing.

That commands on other layers leave a page alone is the frame rule for layer commands,
`Realizes.commands_get?`.
-/

namespace Backplane

namespace AddressMap

/-- What occupies the page of an address, and the device that owns it; the invalid
region and zero where there is no page. -/
def owner (m : AddressMap) (address : UInt32) : Region × UInt32 :=
  match m.table.lookup address with
  | some (entry, _) => (entry.region, entry.deviceId)
  | none => (.invalid, 0)

variable {m m' : AddressMap} {o : Overlay}

theorem owner_of_lookup {address : UInt32} {entry : PageEntry} {offset : UInt32}
    (h : m.table.lookup address = some (entry, offset)) :
    m.owner address = (entry.region, entry.deviceId) := by
  rw [owner, h]

theorem owner_of_outside {address : UInt32} (h : m.table.lookup address = none) :
    m.owner address = (.invalid, 0) := by
  rw [owner, h]

/-- The page of an address is found by the space alone. -/
theorem lookup_congr (space : m'.geometry = m.geometry) {address : UInt32}
    (live : ∀ page, m.geometry.pageIndex address = some page →
      m'.table.get? page = m.table.get? page) :
    m'.table.lookup address = m.table.lookup address := by
  have space' : m'.table.geometry = m.table.geometry := space
  unfold PageTable.lookup
  rw [space']
  cases h : m.table.geometry.pageIndex address with
  | none => rfl
  | some page =>
    have same : m'.table.entries[page]? = m.table.entries[page]? := live page h
    simp only [Option.bind_eq_bind, Option.bind_some, same]

/-- The layers over a page that were shown are those that are, if none over it was
switched. -/
theorem SameButShown.contends_iff (same : m.SameButShown m') {page : Nat}
    (unswitched : ∀ i l, m.layers.toList[i]? = some l → l.covers page = true →
      m'.isShown i = m.isShown i) (i : Nat) (k : Layer) :
    Contends m'.layers.toList page i k ↔ Contends m.layers.toList page i k := by
  have after : m'.layers.toList[i]? =
      m.layers.toList[i]?.map fun l => { l with active := m'.isShown i } := by
    rw [Overlay.layers_eq_mapIdx same, List.getElem?_mapIdx]
  cases here : m.layers.toList[i]? with
  | none =>
    rw [here] at after
    constructor
    · rintro ⟨there, -⟩
      cases after.symm.trans there
    · rintro ⟨there, -⟩
      cases here.symm.trans there
  | some l =>
    have flag : m.isShown i = l.active := by rw [isShown, here]; rfl
    rw [here, Option.map_some] at after
    constructor
    · rintro ⟨there, active, covers⟩
      obtain rfl := Option.some.inj (after.symm.trans there)
      have shown : m.isShown i = true := (unswitched i l here covers).symm.trans active
      have eq : { l with active := m'.isShown i } = l := by
        rw [unswitched i l here covers, flag]
      rw [eq]
      exact ⟨here, flag.symm.trans shown, covers⟩
    · rintro ⟨there, active, covers⟩
      obtain rfl := Option.some.inj (here.symm.trans there)
      have eq : { l with active := m'.isShown i } = l := by
        rw [unswitched i l here covers, flag]
      exact ⟨after.trans (congrArg some eq), active, covers⟩

theorem SameButShown.size_layers (same : m.SameButShown m') :
    m'.layers.size = m.layers.size := by
  simpa using congrArg List.length same.hidden

/-- Commands that show and hide no layer over a page leave its entry alone. -/
theorem Realizes.commands_get? (h : m.Realizes o) (few : m.layers.size ≤ maxLayers)
    (cs : List LayerCommand) {page : Nat}
    (unswitched : ∀ i l, m.layers.toList[i]? = some l → l.covers page = true →
      (cs.foldl AddressMap.command m).isShown i = m.isShown i) :
    (cs.foldl AddressMap.command m).table.get? page = m.table.get? page := by
  have same := m.commands_sameButShown cs
  have after : (cs.foldl AddressMap.command m).Realizes (cs.foldl Overlay.command o) :=
    Overlay.commands_realize h few cs (same.size_layers ▸ few)
  have space := (m.commands_follows cs).geometry_eq
  by_cases lt : page < m.geometry.pageCount
  · obtain ⟨entry, live, shows⟩ := h.live page lt
    obtain ⟨entry', live', shows'⟩ := after.live page (space ▸ lt)
    have base : (cs.foldl Overlay.command o).base page = o.base page := by
      rw [(o.commands_frame cs).1]
    have still : (cs.foldl Overlay.command o).Shows page entry := by
      refine shows.congr base ?_
      intro i k
      rw [← h.layers, ← after.layers]
      exact same.contends_iff unswitched i k
    rw [live, live', shows'.unique still]
  · have outside (t : PageTable) (eq : t.geometry = m.geometry) : t.get? page = none := by
      rw [PageTable.get?, Array.getElem?_eq_none_iff, t.size_entries, eq]
      exact Nat.le_of_not_lt lt
    rw [outside m.table rfl, outside _ space]

end AddressMap

namespace Bus

variable {σ : Type} [DeviceModel σ] (b : Bus σ)

theorem transactions_sameButShown (xs : List Transaction) :
    b.map.SameButShown (xs.foldl transact b).map := by
  induction xs generalizing b with
  | nil => exact .refl _
  | cons x xs ih =>
    have first : b.map.SameButShown (b.transact x).map := by
      rw [transact_map]
      exact b.map.commands_sameButShown _
    exact first.trans (ih _)

theorem records_append (xs ys : List Transaction) :
    b.records (xs ++ ys) = b.records xs ++ (xs.foldl transact b).records ys := by
  induction xs generalizing b with
  | nil => rfl
  | cons x xs ih =>
    rw [List.cons_append, records, ih, List.foldl_cons, records, List.append_assoc]

/-- A record names the page as the transaction leaves it. -/
theorem owner_of_record? {x : Transaction} {r : TraceRecord} (h : b.record? x = some r) :
    (r.region, r.deviceId) = (b.transact x).map.owner x.access.address := by
  simp only [record?, Option.ite_none_right_eq_some, Option.some.injEq] at h
  rw [← h.2, access_event]
  rfl

omit [DeviceModel σ] in
/-- Who passes the page checks is led on by the entry of its page. -/
theorem lookup_of_resolve {a : Access} {r : Resolved} (h : b.resolve a = .ok r) :
    b.map.table.lookup a.address = some (r.entry, r.cell.offset) :=
  (resolve_eq_ok_iff.mp h).1

/-- The record of a transaction in a run tells which page answered, except that it
tells it too late: it names what the page of the address has become by the layer
commands that the transaction itself issued. That is the page that answered if these
switched no layer over it. Outside the space it names nothing. -/
theorem record_names_left {ring : TraceRing} (tracing : b.trace = some ring)
    (ts : List Transfer) :
    let xs := ts.flatMap Transfer.transactions
    (ts.foldl transfer b).trace = some ((b.records xs).foldl .emit ring) ∧
    ∀ before x after, xs = before ++ x :: after →
      let c := before.foldl transact b
      let address := x.access.address
      let left := (c.served x).commands.foldl AddressMap.command c.map
      b.records xs =
        b.records before ++ (c.record? x).toList ++ (c.transact x).records after ∧
      (∀ answering, c.resolve x.access = .ok answering →
        c.map.owner address = (answering.entry.region, answering.entry.deviceId)) ∧
      ∀ r, c.record? x = some r →
        (r.region, r.deviceId) = left.owner address ∧
        (c.geometry.contains address = false → (r.region, r.deviceId) = (.invalid, 0)) ∧
        (b.Reachable → b.map.layers.size ≤ maxLayers →
          (∀ i l page, c.map.layers.toList[i]? = some l →
            c.geometry.pageIndex address = some page → l.covers page = true →
              left.isShown i = c.map.isShown i) →
          (r.region, r.deviceId) = c.map.owner address) := by
  intro xs
  constructor
  · rw [transfers_eq_foldl, transactions_trace, tracing]
    rfl
  rintro before x after split c address left
  have left_eq : (c.transact x).map = left := c.transact_map x
  have space : left.geometry = c.map.geometry := (c.map.commands_follows _).geometry_eq
  refine ⟨?_, fun answering resolved => AddressMap.owner_of_lookup (c.lookup_of_resolve resolved),
    ?_⟩
  · rw [split, records_append, records, List.append_assoc]
  intro r recorded
  have named : (r.region, r.deviceId) = left.owner address := by
    rw [← left_eq]
    exact c.owner_of_record? recorded
  refine ⟨named, ?_, ?_⟩
  · intro outside
    have nowhere : left.table.geometry.pageIndex address = none := by
      rw [← AddressMap.geometry, space]
      exact if_neg (outside.trans_ne Bool.false_ne_true)
    have still : left.table.lookup address = none := by
      rw [PageTable.lookup, nowhere]
      rfl
    rw [named, AddressMap.owner_of_outside still]
  · intro reachable few unswitched
    have same := b.transactions_sameButShown before
    have few' : c.map.layers.size ≤ maxLayers := same.size_layers ▸ few
    obtain ⟨o, realizes⟩ := reachable.realizes few
    have shows := Overlay.transactions_realize realizes before few'
    have still : left.table.lookup address = c.map.table.lookup address := by
      apply AddressMap.lookup_congr space
      intro page inside
      exact shows.commands_get? few' _ fun i l here covers =>
        unswitched i l page here inside covers
    rw [named, AddressMap.owner, still, AddressMap.owner]

/-- A switch on page 0 shows a layer of memory over page 0 itself. Accesses are
traced. -/
def selfCovering : Bus SwitchBank :=
  (Bus.empty smallSpace).run
    [.addTarget "switch" (.device { table := ⟨#[{ read := .activate ⟨0⟩ }, {}, {}, {}]⟩ }),
     .addTarget "ram" (.ram (.filled 4 0x22)),
     .mapRange 0 4 { target := ⟨0⟩, perms := .all, region := .io, deviceId := 7 },
     .createLayer "cover" 0, .saveBase 0 1,
     .setLayerMapping "cover" { base := 0, target := ⟨1⟩, perms := .all }, .enableTrace 4]

/-- A read beside the switch is told of the bank, and so would one outside the space be
of nothing. -/
theorem record_names_left_beside :
    let beside : Access := .read 1
    let outside : Access := .read 16
    ∃ ring, selfCovering.trace = some ring ∧
      (∃ r, selfCovering.record? (.read beside) = some r ∧ (r.region, r.deviceId) = (.io, 7)) ∧
      ∃ r, selfCovering.record? (.read outside) = some r ∧
        (r.region, r.deviceId) = (.invalid, 0) := by
  intro beside outside
  have on : selfCovering.trace.isSome = true := by decide_cbv
  obtain ⟨ring, tracing⟩ := Option.isSome_iff_exists.mp on
  have reachable : selfCovering.Reachable := (Reachable.empty smallSpace).run _
  have few : selfCovering.map.layers.size ≤ maxLayers := by decide_cbv
  refine ⟨ring, tracing, ?_, ?_⟩
  · obtain ⟨-, each⟩ := record_names_left selfCovering tracing [.read beside]
    obtain ⟨-, answered, names⟩ := each [] (.read beside) [] rfl
    have written : (selfCovering.record? (.read beside)).isSome = true := by decide_cbv
    obtain ⟨r, recorded⟩ := Option.isSome_iff_exists.mp written
    have idle : (selfCovering.served (.read beside)).commands = [] := by decide_cbv
    obtain ⟨-, -, same⟩ := names r recorded
    refine ⟨r, recorded, (same reachable few ?_).trans ?_⟩
    · intro i l page _ _ _
      rw [List.foldl_nil, idle]
      rfl
    · decide_cbv
  · obtain ⟨-, each⟩ := record_names_left selfCovering tracing [.read outside]
    obtain ⟨-, -, names⟩ := each [] (.read outside) [] rfl
    have written : (selfCovering.record? (.read outside)).isSome = true := by decide_cbv
    obtain ⟨r, recorded⟩ := Option.isSome_iff_exists.mp written
    exact ⟨r, recorded, (names r recorded).2.1 (by decide_cbv)⟩

/-- A read of the switch is answered by the bank, and the record of it names the
memory. -/
theorem answering_page_unnamed :
    let bank : PageEntry := ⟨some ⟨0⟩, .all, .union .peek .sideEffects, .io, 0, 7⟩
    let record : TraceRecord := { widthBits := 8, region := .ram, deviceId := 0 }
    selfCovering.Reachable ∧ selfCovering.resolve (.read 0) = .ok ⟨⟨⟨0⟩, 0⟩, bank⟩ ∧
      (selfCovering.readAtomic (.read 0)).2 = .ok 0 ∧
      (∃ ring, selfCovering.trace = some ring ∧
        (selfCovering.transfer (.read (.read 0))).trace = some (ring.emit record)) ∧
      (record.region, record.deviceId) ≠ (bank.region, bank.deviceId) := by
  intro bank record
  have reachable : selfCovering.Reachable := (Reachable.empty smallSpace).run _
  have answered : selfCovering.resolve (.read 0) = .ok ⟨⟨⟨0⟩, 0⟩, bank⟩ := by decide_cbv
  have value : (selfCovering.readAtomic (.read 0)).2 = .ok 0 := by decide_cbv
  have recorded : selfCovering.record? (.read (.read 0)) = some record := by decide_cbv
  have on : selfCovering.trace.isSome = true := by decide_cbv
  obtain ⟨ring, tracing⟩ := Option.isSome_iff_exists.mp on
  refine ⟨reachable, answered, value, ⟨ring, tracing, ?_⟩, by decide⟩
  have emitted := selfCovering.transact_trace (.read (.read 0))
  rw [tracing, recorded] at emitted
  exact emitted

end Bus
end Backplane
