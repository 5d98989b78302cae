import Mathlib
import Backplane.Proofs.Device.Lookup

/-!
# The two indexes of the registry

The registry keeps its devices by id, and beside them the owners of pages. It is
`Consistent` if the two say the same: no two devices have an id in common, and a page has
an owner exactly if a device carries it. No two devices can carry one page then, and what
either index finds is found by looking through the devices.

A registration is accepted or changes nothing (`register_eq_ok_iff`, `register_eq_error`),
and an accepted one keeps the registry consistent (`Consistent.withDevice`). Along a run
the registry lists just the devices that were registered (`devices_run`), which settles what
`indexes_consistent` says of it.
-/

namespace Backplane

/-! ## Classes of page ids -/

namespace DeviceClass

theorem code_injective : Function.Injective code := by
  intro c c' same
  have found : ofCode? c.code = some c' := by rw [same, ofCode?_code]
  exact Option.some.inj ((ofCode?_code c).symm.trans found)

theorem exists_code {code : UInt8} (lt : code.toNat < 16) : ∃ c : DeviceClass, c.code = code := by
  have each : ∀ n : Fin 16, ∃ c ∈ all, c.code = UInt8.ofNat n := by decide
  obtain ⟨c, -, same⟩ := each ⟨code.toNat, lt⟩
  exact ⟨c, same.trans (UInt8.ofNat_toNat)⟩

theorem code_lt (c : DeviceClass) : c.code.toNat < 2 ^ 4 := by
  cases c <;> decide

end DeviceClass

namespace DevicePageId

variable {id : DevicePageId}

/-- Bits 16 to 19 of an id. -/
def classBits (id : DevicePageId) : ℕ := id.raw.toNat / 2 ^ 16 % 2 ^ 4

/-- The ids that can be had: those that are made of parts, and those that are read from a
number. -/
inductive IsFormed : DevicePageId → Prop where
  /-- A class, an instance and a page make an id. -/
  | parts {c : DeviceClass} {instanceNumber page : UInt8} {id : DevicePageId} :
    ofParts c instanceNumber page = .ok id → IsFormed id
  /-- A number is an id. -/
  | raw {number : UInt32} {id : DevicePageId} : ofRaw number = .ok id → IsFormed id

/-- The parts of an id do not overlap. -/
theorem toNat_pack (c : DeviceClass) (instanceNumber page : UInt8) :
    (pack c instanceNumber page).raw.toNat =
      c.code.toNat * 2 ^ 16 + (instanceNumber.toNat * 2 ^ 8 + page.toNat) := by
  have class_lt := c.code_lt
  have instance_lt : instanceNumber.toNat < 2 ^ 8 := instanceNumber.toNat_lt
  have page_lt : page.toNat < 2 ^ 8 := page.toNat_lt
  have classPart : (c.code.toUInt32 <<< 16).toNat = c.code.toNat <<< 16 := by
    rw [UInt32.toNat_shiftLeft, UInt8.toNat_toUInt32, Nat.shiftLeft_eq, Nat.shiftLeft_eq]
    exact Nat.mod_eq_of_lt (by show _ * 2 ^ 16 < _; omega)
  have instancePart : (instanceNumber.toUInt32 <<< 8).toNat = instanceNumber.toNat <<< 8 := by
    rw [UInt32.toNat_shiftLeft, UInt8.toNat_toUInt32, Nat.shiftLeft_eq, Nat.shiftLeft_eq]
    exact Nat.mod_eq_of_lt (by show _ * 2 ^ 8 < _; omega)
  have low : instanceNumber.toNat <<< 8 ||| page.toNat =
      instanceNumber.toNat * 2 ^ 8 + page.toNat := by
    rw [← Nat.shiftLeft_add_eq_or_of_lt page_lt, Nat.shiftLeft_eq]
  have low_lt : instanceNumber.toNat * 2 ^ 8 + page.toNat < 2 ^ 16 := by omega
  rw [pack, UInt32.toNat_or, UInt32.toNat_or, classPart, instancePart, UInt8.toNat_toUInt32,
    Nat.or_assoc, low, ← Nat.shiftLeft_add_eq_or_of_lt low_lt, Nat.shiftLeft_eq]

/-- No id has more than twenty bits. -/
theorem IsFormed.toNat_lt (formed : id.IsFormed) : id.raw.toNat < 2 ^ 20 := by
  cases formed with
  | @parts c instanceNumber page _ made =>
    unfold ofParts at made
    split at made
    · cases made
    · cases made
      have class_lt := c.code_lt
      have instance_lt : instanceNumber.toNat < 2 ^ 8 := instanceNumber.toNat_lt
      have page_lt : page.toNat < 2 ^ 8 := page.toNat_lt
      rw [toNat_pack]
      omega
  | raw read =>
    unfold ofRaw at read
    split at read
    · rename_i bounds
      cases read
      exact UInt32.lt_iff_toNat_lt.mp bounds.1
    · cases read

/-- The class of an id is the one whose code is in its bits. -/
theorem IsFormed.deviceClass_eq_iff (formed : id.IsFormed) (c : DeviceClass) :
    id.deviceClass = c ↔ id.classBits = c.code.toNat := by
  have lt := formed.toNat_lt
  have bits : (id.raw >>> 16).toUInt8.toNat = id.classBits := by
    rw [UInt32.toNat_toUInt8, UInt32.toNat_shiftRight, Nat.shiftRight_eq_div_pow, classBits]
    show id.raw.toNat / 2 ^ 16 % 2 ^ 8 = _
    omega
  have bits_lt : id.classBits < 16 := Nat.mod_lt _ (by decide)
  obtain ⟨own, code⟩ := DeviceClass.exists_code (bits ▸ bits_lt)
  have deviceClass : id.deviceClass = own := by
    rw [DevicePageId.deviceClass, ← code, DeviceClass.ofCode?_code, Option.getD_some]
  rw [deviceClass, ← bits, ← code, UInt8.toNat_inj]
  exact ⟨congrArg _, fun same => DeviceClass.code_injective same⟩

end DevicePageId

/-! ## Registrations -/

namespace Registry

variable {r r' : Registry} {info : DeviceInfo}

/-- The device can be registered: its id is new and not zero, and its page is free. -/
structure Accepts (r : Registry) (info : DeviceInfo) : Prop where
  nonzero : info.id ≠ 0
  unused : r.get? info.id = none
  free : ∀ page, info.pageId = some page → r.pages.lookup page = none

/-- The registry with one more device. -/
def withDevice (r : Registry) (info : DeviceInfo) : Registry where
  devices := insertSorted info r.devices
  pages := (info.pageId.toList.map fun page => (page, info.id)) ++ r.pages
  lastId := max r.lastId info.id

/-- Why a device is refused, which leaves everything as it was. -/
theorem register_eq_error {e : RegistryError} (h : r.register info = (r', .error e)) :
    r' = r ∧
      ((e = .reservedId ∧ info.id = 0) ∨ (e = .duplicateId info.id ∧ r.get? info.id ≠ none) ∨
        ∃ page, e = .duplicatePageId page ∧ info.pageId = some page ∧
          r.pages.lookup page ≠ none) := by
  unfold register at h
  split at h
  · rename_i zero
    cases h
    exact ⟨rfl, .inl ⟨rfl, zero⟩⟩
  · split at h
    · rename_i used
      cases h
      exact ⟨rfl, .inr (.inl ⟨rfl, Option.isSome_iff_ne_none.mp used⟩)⟩
    · dsimp only at h
      split at h
      · cases h
      · rename_i page carried
        split at h
        · rename_i owned
          cases h
          exact ⟨rfl, .inr (.inr ⟨page, rfl, carried, Option.isSome_iff_ne_none.mp owned⟩)⟩
        · cases h

theorem Accepts.register_eq (h : r.Accepts info) :
    r.register info = (r.withDevice info, .ok ()) := by
  have unused : ¬(r.get? info.id).isSome := by rw [h.unused]; exact Bool.false_ne_true
  unfold register withDevice
  rw [if_neg h.nonzero, if_neg unused]
  dsimp only
  split
  · rename_i none
    rw [none]
    rfl
  · rename_i page carried
    have free : ¬(r.pages.lookup page).isSome := by
      rw [h.free page carried]
      exact Bool.false_ne_true
    rw [if_neg free, carried]
    rfl

/-- A device is accepted or refused, and if it is accepted it is put into both indexes. -/
theorem register_eq_ok_iff :
    r.register info = (r', .ok ()) ↔ r.Accepts info ∧ r' = r.withDevice info := by
  constructor
  · intro h
    obtain ⟨nonzero, unused, -, free, -⟩ := register_eq_ok h
    have accepts : r.Accepts info := ⟨nonzero, unused, free⟩
    exact ⟨accepts, (Prod.mk.inj (h.symm.trans accepts.register_eq)).1⟩
  · rintro ⟨accepts, rfl⟩
    exact accepts.register_eq

/-! ## Consistency -/

/-- Devices in the order of their ids. -/
def byId (a b : DeviceInfo) : Prop := a.id ≤ b.id

instance : DecidableRel byId := fun _ _ => inferInstanceAs (Decidable (_ ≤ _))

instance : Std.Total byId := ⟨fun a b => UInt32.le_total a.id b.id⟩

instance : IsTrans DeviceInfo byId := ⟨fun _ _ _ h h' => UInt32.le_trans h h'⟩

theorem insertSorted_eq (info : DeviceInfo) (devices : List DeviceInfo) :
    insertSorted info devices = devices.orderedInsert byId info := by
  have same : (fun other : DeviceInfo => decide (other.id < info.id)) =
      fun other => decide ¬byId info other := by
    funext other
    rw [decide_eq_decide, byId, UInt32.not_le]
  rw [List.orderedInsert_eq_take_drop, insertSorted, same]

theorem insertSorted_perm (info : DeviceInfo) (devices : List DeviceInfo) :
    (insertSorted info devices).Perm (info :: devices) := by
  rw [insertSorted_eq]
  exact List.perm_orderedInsert byId info devices

/-- The devices of a class are those with its code in their page ids. -/
theorem ofClass_eq (formed : ∀ info ∈ r.devices, ∀ page ∈ info.pageId, page.IsFormed)
    (c : DeviceClass) : r.ofClass c = r.devices.filter fun info =>
      info.pageId.any fun page => page.classBits = c.code.toNat := by
  apply List.filter_congr
  intro info mem
  cases carried : info.pageId with
  | none => rfl
  | some page =>
    have own := formed info mem page carried
    exact decide_eq_decide.mpr (own.deviceClass_eq_iff c)

/-- The devices ascend and have no id in common, and the owners of pages are the devices
that carry them. -/
structure Consistent (r : Registry) : Prop where
  sorted : r.devices.Pairwise byId
  distinct : (r.devices.map DeviceInfo.id).Nodup
  lookup_iff : ∀ {page : DevicePageId} {id : UInt32}, r.pages.lookup page = some id ↔
    ∃ info ∈ r.devices, info.pageId = some page ∧ info.id = id

theorem consistent_new : Consistent {} where
  sorted := .nil
  distinct := .nil
  lookup_iff := by
    intro page id
    constructor
    · rintro ⟨⟩
    · rintro ⟨info, ⟨⟩, -⟩

theorem mem_of_get? {id : UInt32} (found : r.get? id = some info) :
    info ∈ r.devices ∧ info.id = id := by
  rw [get?] at found
  have named := List.find?_some found
  rw [decide_eq_true_eq] at named
  exact ⟨List.mem_of_find?_eq_some found, named⟩

theorem get?_eq_none_iff {id : UInt32} : r.get? id = none ↔ ∀ info ∈ r.devices, info.id ≠ id := by
  rw [get?, List.find?_eq_none]
  simp only [decide_eq_true_eq, ne_eq]

namespace Consistent

theorem ascending (h : r.Consistent) : r.devices.Pairwise fun a b => a.id < b.id :=
  (h.sorted.and (List.pairwise_map.mp h.distinct)).imp fun ⟨le, ne⟩ =>
    UInt32.lt_of_le_of_ne le ne

theorem nodup (h : r.Consistent) : r.devices.Nodup := h.distinct.of_map

theorem eq_of_id_eq (h : r.Consistent) {a b : DeviceInfo} (ha : a ∈ r.devices)
    (hb : b ∈ r.devices) (same : a.id = b.id) : a = b :=
  List.inj_on_of_nodup_map h.distinct ha hb same

theorem get?_eq_some_iff (h : r.Consistent) {id : UInt32} :
    r.get? id = some info ↔ info ∈ r.devices ∧ info.id = id := by
  constructor
  · exact mem_of_get?
  · rintro ⟨mem, rfl⟩
    cases found : r.get? info.id with
    | none => exact absurd rfl (get?_eq_none_iff.mp found info mem)
    | some other =>
      obtain ⟨here, same⟩ := mem_of_get? found
      rw [h.eq_of_id_eq here mem same]

theorem lookup_eq_none_iff (h : r.Consistent) {page : DevicePageId} :
    r.pages.lookup page = none ↔ ∀ info ∈ r.devices, info.pageId ≠ some page := by
  rw [Option.eq_none_iff_forall_ne_some]
  constructor
  · intro none info mem carried
    exact none info.id (h.lookup_iff.mpr ⟨info, mem, carried, rfl⟩)
  · intro none id some
    obtain ⟨info, mem, carried, -⟩ := h.lookup_iff.mp some
    exact none info mem carried

/-- Two devices that carried one page would both be its owner. -/
theorem eq_of_page_eq (h : r.Consistent) {a b : DeviceInfo} (ha : a ∈ r.devices)
    (hb : b ∈ r.devices) {page : DevicePageId} (carriedA : a.pageId = some page)
    (carriedB : b.pageId = some page) : a = b := by
  have ownerA := h.lookup_iff.mpr ⟨a, ha, carriedA, rfl⟩
  have ownerB := h.lookup_iff.mpr ⟨b, hb, carriedB, rfl⟩
  exact h.eq_of_id_eq ha hb (Option.some.inj (ownerA.symm.trans ownerB))

theorem getPage?_eq_some_iff (h : r.Consistent) {page : DevicePageId} :
    r.getPage? page = some info ↔ info ∈ r.devices ∧ info.pageId = some page := by
  rw [getPage?, Option.bind_eq_some_iff]
  constructor
  · rintro ⟨id, owner, found⟩
    obtain ⟨other, mem, carried, rfl⟩ := h.lookup_iff.mp owner
    obtain ⟨here, same⟩ := h.get?_eq_some_iff.mp found
    rw [h.eq_of_id_eq here mem same]
    exact ⟨mem, carried⟩
  · rintro ⟨mem, carried⟩
    exact ⟨info.id, h.lookup_iff.mpr ⟨info, mem, carried, rfl⟩,
      h.get?_eq_some_iff.mpr ⟨mem, rfl⟩⟩

/-- A page leads to a device if this is the only one that carries the page. -/
theorem getPage?_eq_some_iff_carriers (h : r.Consistent) {known : List DeviceInfo}
    (devices : r.devices.Perm known) {page : DevicePageId} :
    r.getPage? page = some info ↔
      (known.filter fun other => other.pageId = some page) = [info] := by
  have nodup : known.Nodup := devices.nodup_iff.mp h.nodup
  rw [h.getPage?_eq_some_iff, devices.mem_iff]
  constructor
  · rintro ⟨mem, carried⟩
    -- Whoever carries the page is this device, which is listed once.
    rw [← List.perm_singleton]
    refine (List.perm_ext_iff_of_nodup (nodup.filter _) (List.nodup_singleton info)).mpr ?_
    intro other
    rw [List.mem_filter, decide_eq_true_eq, List.mem_singleton]
    constructor
    · rintro ⟨here, also⟩
      exact h.eq_of_page_eq (devices.mem_iff.mpr here) (devices.mem_iff.mpr mem) also carried
    · rintro rfl
      exact ⟨mem, carried⟩
  · intro only
    have here : info ∈ known.filter fun other => other.pageId = some page := by
      rw [only]
      exact List.mem_singleton_self info
    rwa [List.mem_filter, decide_eq_true_eq] at here

/-- The registry accepts a device if it shares neither its id nor its page with another. -/
theorem accepts_iff (h : r.Consistent) :
    r.Accepts info ↔ info.id ≠ 0 ∧ (∀ other ∈ r.devices, other.id ≠ info.id) ∧
      ∀ page, info.pageId = some page → ∀ other ∈ r.devices, other.pageId ≠ some page := by
  constructor
  · intro accepts
    exact ⟨accepts.nonzero, get?_eq_none_iff.mp accepts.unused,
      fun page carried => h.lookup_eq_none_iff.mp (accepts.free page carried)⟩
  · rintro ⟨nonzero, unused, free⟩
    exact ⟨nonzero, get?_eq_none_iff.mpr unused,
      fun page carried => h.lookup_eq_none_iff.mpr (free page carried)⟩

theorem withDevice (h : r.Consistent) (accepts : r.Accepts info) :
    (r.withDevice info).Consistent where
  sorted := by
    rw [Registry.withDevice, insertSorted_eq]
    exact h.sorted.orderedInsert info r.devices
  distinct := by
    refine ((insertSorted_perm info r.devices).map _).nodup_iff.mpr ?_
    rw [List.map_cons, List.nodup_cons, List.mem_map]
    refine ⟨?_, h.distinct⟩
    rintro ⟨other, mem, same⟩
    exact (h.accepts_iff.mp accepts).2.1 other mem same
  lookup_iff := by
    intro page id
    have mem_iff {other : DeviceInfo} :
        other ∈ (r.withDevice info).devices ↔ other = info ∨ other ∈ r.devices :=
      (insertSorted_perm info r.devices).mem_iff.trans List.mem_cons
    simp only [mem_iff, or_and_right, exists_or, exists_eq_left]
    rw [← h.lookup_iff]
    show ((info.pageId.toList.map fun page => (page, info.id)) ++ r.pages).lookup page = _ ↔ _
    cases carried : info.pageId with
    | none => simp
    | some own =>
      show ((own, info.id) :: r.pages).lookup page = _ ↔ _
      by_cases same : page = own
      · subst same
        rw [List.lookup_cons_self, accepts.free page carried]
        simp
      · rw [List.lookup_cons, beq_eq_false_iff_ne.mpr same]
        simp [Ne.symm same]

end Consistent

/-! ## Runs -/

/-- What is asked of a registry. -/
inductive Call where
  /-- To register a device, which may own a page. -/
  | register (info : DeviceInfo)
  /-- To give out an id. -/
  | generateId

/-- What comes of a call. -/
inductive Outcome where
  /-- The device is registered. -/
  | registered (info : DeviceInfo)
  /-- The id is given out. -/
  | generated (id : UInt32)
  /-- Nothing is done. -/
  | refused (e : RegistryError)

namespace Outcome

/-- What comes of a registration. -/
def ofRegister (info : DeviceInfo) : Except RegistryError Unit → Outcome
  | .ok () => registered info
  | .error e => refused e

/-- What comes of asking for an id. -/
def ofGenerateId : Except RegistryError UInt32 → Outcome
  | .ok id => generated id
  | .error e => refused e

/-- The device that is registered. -/
def device? : Outcome → Option DeviceInfo
  | registered info => some info
  | generated _ | refused _ => none

end Outcome

/-- The devices that were registered, in the order in which they were. -/
def registered (outcomes : List Outcome) : List DeviceInfo := outcomes.filterMap Outcome.device?

/-- The registry after a call, and what comes of the call. -/
def answer (r : Registry) : Call → Registry × Outcome
  | .register info => ((r.register info).1, .ofRegister info (r.register info).2)
  | .generateId => (r.generateId.1, .ofGenerateId r.generateId.2)

/-- A registry and what came of the calls so far, after one more. -/
def step (s : Registry × List Outcome) (c : Call) : Registry × List Outcome :=
  ((s.1.answer c).1, s.2 ++ [(s.1.answer c).2])

/-- A new registry after calls in order, and what came of each. -/
def run (calls : List Call) : Registry × List Outcome := calls.foldl step ({}, [])

theorem generateId_cases (r : Registry) :
    (∃ id, r.generateId = ({ r with lastId := id }, .ok id)) ∨
      r.generateId = (r, .error .idsExhausted) := by
  unfold generateId
  split
  · exact .inl ⟨_, rfl⟩
  · exact .inr rfl

/-- A call is a registration that is accepted, an id that is given out, or refused. -/
theorem answer_cases (r : Registry) (c : Call) :
    (∃ info, r.Accepts info ∧ r.answer c = (r.withDevice info, .registered info)) ∨
      (∃ id, r.generateId.2 = .ok id ∧
        r.answer c = ({ r with lastId := id }, .generated id)) ∨
      ∃ e, r.answer c = (r, .refused e) := by
  cases c with
  | register info =>
    rw [answer]
    rcases registered : r.register info with ⟨r', _ | _⟩
    · obtain ⟨rfl, -⟩ := register_eq_error registered
      exact .inr (.inr ⟨_, rfl⟩)
    · obtain ⟨accepts, rfl⟩ := register_eq_ok_iff.mp registered
      exact .inl ⟨info, accepts, rfl⟩
  | generateId =>
    rw [answer]
    rcases r.generateId_cases with ⟨id, given⟩ | exhausted
    · rw [given]
      exact .inr (.inl ⟨id, rfl, rfl⟩)
    · rw [exhausted]
      exact .inr (.inr ⟨_, rfl⟩)

theorem Consistent.answer (h : r.Consistent) (c : Call) : (r.answer c).1.Consistent := by
  rcases r.answer_cases c with ⟨info, accepts, same⟩ | ⟨id, -, same⟩ | ⟨e, same⟩
  · rw [same]
    exact h.withDevice accepts
  · rw [same]
    exact ⟨h.sorted, h.distinct, h.lookup_iff⟩
  · rw [same]
    exact h

theorem devices_answer (r : Registry) (c : Call) :
    (r.answer c).1.devices.Perm (r.devices ++ registered [(r.answer c).2]) := by
  rcases r.answer_cases c with ⟨info, -, same⟩ | ⟨id, -, same⟩ | ⟨e, same⟩
  · rw [same]
    exact (insertSorted_perm info r.devices).trans (List.perm_append_singleton _ _).symm
  · rw [same]
    exact .of_eq (List.append_nil _).symm
  · rw [same]
    exact .of_eq (List.append_nil _).symm

theorem run_concat (calls : List Call) (c : Call) : run (calls ++ [c]) = step (run calls) c :=
  List.foldl_concat ..

theorem consistent_run (calls : List Call) : (run calls).1.Consistent := by
  induction calls using List.reverseRecOn with
  | nil => exact consistent_new
  | append_singleton calls c ih =>
    rw [run_concat]
    exact ih.answer c

theorem devices_run (calls : List Call) :
    (run calls).1.devices.Perm (registered (run calls).2) := by
  induction calls using List.reverseRecOn with
  | nil => exact .nil
  | append_singleton calls c ih =>
    rw [run_concat, step, registered, List.filterMap_append]
    exact (devices_answer _ c).trans (ih.append_right _)

/-- After any calls, a registration succeeds exactly if the id is new and not zero and the
page, if there is one, is free, and changes nothing if it fails. A page leads to a device
exactly if it is the one registered device that carries the page. All devices that were
registered are listed once, in ascending order of id, and those of a class are the ones
with the code of the class in their page ids. -/
theorem indexes_consistent (calls : List Call) :
    let r := (run calls).1
    let known := registered (run calls).2
    (∀ info, (r.register info).2 = .ok () ↔
      info.id ≠ 0 ∧ (∀ other ∈ known, other.id ≠ info.id) ∧
        ∀ page, info.pageId = some page → ∀ other ∈ known, other.pageId ≠ some page) ∧
    (∀ info e, (r.register info).2 = .error e → (r.register info).1 = r) ∧
    (∀ page info, r.getPage? page = some info ↔
      (known.filter fun other => other.pageId = some page) = [info]) ∧
    r.devices.Perm known ∧ r.devices.Pairwise (fun a b => a.id < b.id) ∧
    ((∀ info ∈ known, ∀ page ∈ info.pageId, page.IsFormed) → ∀ c,
      r.ofClass c = r.devices.filter fun info =>
        info.pageId.any fun page => page.classBits = c.code.toNat) := by
  intro r known
  have consistent : r.Consistent := consistent_run calls
  have devices : r.devices.Perm known := devices_run calls
  refine ⟨?_, ?_, ?_, devices, consistent.ascending, ?_⟩
  · intro info
    have accepts : r.Accepts info ↔ _ := consistent.accepts_iff
    simp only [devices.mem_iff] at accepts
    rw [← accepts]
    constructor
    · intro ok
      exact (register_eq_ok_iff.mp (Prod.ext rfl ok)).1
    · intro accepted
      rw [accepted.register_eq]
  · intro info e refused
    exact (register_eq_error (Prod.ext rfl refused)).1
  · intro page info
    exact consistent.getPage?_eq_some_iff_carriers devices
  · intro formed c
    exact ofClass_eq (fun info mem => formed info (devices.mem_iff.mp mem)) c

/-- A device with a page and one without, one that is refused for the page of the first, one
for its id and one for the reserved id, and an id that is given out in between. -/
theorem indexes_consistent_contended :
    let disk : DeviceInfo := ⟨5, some (.slotRom 6 0), "disk", "Disk", "main/slot6"⟩
    let speaker : DeviceInfo := ⟨2, none, "speaker", "Speaker", "main/speaker"⟩
    let calls : List Call := [.register disk, .register { disk with id := 7 }, .generateId,
      .register speaker, .register { speaker with id := 5 }, .register { speaker with id := 0 }]
    let r := (run calls).1
    let known := registered (run calls).2
    (∀ info ∈ known, ∀ page ∈ info.pageId, page.IsFormed) ∧
      (r.register { disk with id := 7 }).1 = r ∧
      r.getPage? (.slotRom 6 0) = some disk ∧ r.getPage? (.slotRom 6 1) ≠ some disk ∧
      (r.register ⟨6, some (.timer 0), "timer", "Timer", "main/timer"⟩).2 = .ok () ∧
      r.devices.map DeviceInfo.id = [2, 5] ∧ r.ofClass .slotRom = [disk] := by
  intro disk speaker calls r known
  have formed : ∀ info ∈ known, ∀ page ∈ info.pageId, page.IsFormed := by
    have both : known = [disk, speaker] := by decide
    rw [both]
    intro info mem page owned
    rcases List.mem_pair.mp mem with rfl | rfl
    · cases owned
      exact .parts (rfl : DevicePageId.ofParts .slotRom 6 0 = _)
    · cases owned
  obtain ⟨accepts, refuses, pages, -, -, classes⟩ := indexes_consistent calls
  refine ⟨formed, refuses _ (.duplicatePageId (.slotRom 6 0)) (by decide), ?_, ?_, ?_,
    by decide, ?_⟩
  · exact (pages _ disk).mpr (by decide)
  · exact fun found => absurd ((pages _ disk).mp found) (by decide)
  · exact (accepts _).mpr (by decide)
  · rw [classes formed]
    decide

end Registry
end Backplane
