import Mathlib
import Backplane.Proofs.Bus.Readback
import Backplane.Proofs.Monitor.RefusedCommands
import Backplane.Proofs.Monitor.WholeTargets
import Backplane.Proofs.Text.Digits

/-!
# Echoes of writes

A write that succeeds shows the value that the line told, all 32 bits of it, and a read
shows what was stored, cut down to the width. So a read of the same memory shows the value
that the write showed just if this fits the width (`read_shows_stored`): a longer one is
taken, shown whole and stored in part (`echo_of_lost_digits`).
-/

namespace Backplane

/-! ## Widths -/

theorem Width.toNat_of_ofBits {bits : UInt8} {width : Width} (ok : ofBits bits = .ok width) :
    bits.toNat = 8 * width.bytes := by
  unfold ofBits at ok
  split at ok
  · cases ok
    subst bits
    rfl
  split at ok
  · cases ok
    subst bits
    rfl
  split at ok
  · cases ok
    subst bits
    rfl
  · cases ok

theorem Width.toNat_and_mask (width : Width) (value : UInt32) :
    (value &&& width.mask).toNat = value.toNat % 2 ^ (8 * width.bytes) := by
  rw [UInt32.toNat_and, width.toNat_mask, Nat.and_two_pow_sub_one_eq_mod]

theorem Width.and_mask_eq_iff (width : Width) (value : UInt32) :
    value &&& width.mask = value ↔ value.toNat < 2 ^ (8 * width.bytes) := by
  rw [← UInt32.toNat_inj, toNat_and_mask]
  exact Nat.mod_eq_iff_lt (by positivity)

/-! ## What is shown -/

namespace Session

variable {s : Session} {address value : UInt32} {bits : UInt8} {width : Width}

/-- What an access shows that was carried out: the address, a mark and digits. -/
def echo (address : UInt32) (mark digits : String) : String :=
  addressText address ++ mark ++ digits ++ "\n"

theorem echo_inj {mark digits digits' : String} :
    echo address mark digits = echo address mark digits' ↔ digits = digits' := by
  refine ⟨fun same => ?_, fun same => same ▸ rfl⟩
  have chars := congrArg String.toList same
  simp only [echo, String.toList_append, List.append_assoc, List.append_cancel_left_eq,
    List.append_cancel_right_eq] at chars
  exact String.toList_inj.mp chars

/-- A fault is not shown as a write is. -/
theorem faultText_ne_echo (fault : Fault) (digits : String) :
    faultText address fault ≠ echo address " <- " digits := by
  intro same
  have chars := congrArg String.toList same
  simp only [faultText, echo, String.toList_append, List.append_assoc,
    List.append_cancel_left_eq] at chars
  cases chars

theorem valueText_inj {value' : UInt32} :
    valueText value bits = valueText value' bits ↔ value = value' := by
  refine ⟨fun same => ?_, fun same => same ▸ rfl⟩
  exact UInt32.toNat_inj.mp (Numeral.hexPadded_injective _ same)

/-! ## Accesses of the processor -/

variable (s) in
/-- The access that a read makes next. -/
def nextRead (address : UInt32) (width : Width) : Access :=
  { address := address, intent := .dataRead, width := width, mode := .decomposed
    cycle := s.cycle + 1 }

variable (s) in
/-- The access that a write makes next. -/
def nextWrite (address value : UInt32) (width : Width) : Access :=
  { address := address, value := value, intent := .dataWrite, width := width, mode := .decomposed
    cycle := s.cycle + 1 }

theorem read_eq (ok : Width.ofBits bits = .ok width) :
    let done := s.bus.read (s.nextRead address width)
    s.read address bits =
      ({ s with bus := done.1, cycle := s.cycle + 1 },
        .ok (match done.2 with
          | .ok value => echo address " -> " (valueText value bits)
          | .error fault => faultText address fault)) := by
  intro done
  have split : s.bus.read (s.nextRead address width) = (done.1, done.2) := rfl
  generalize done.1 = bus, done.2 = result at split ⊢
  rw [nextRead] at split
  rw [read, processorAccess, ok]
  dsimp only
  rw [split]
  cases result <;> rfl

theorem write_eq (ok : Width.ofBits bits = .ok width) :
    let done := s.bus.write (s.nextWrite address value width)
    s.write address value bits =
      ({ s with bus := done.1, cycle := s.cycle + 1 },
        .ok (match done.2 with
          | .ok () => echo address " <- " (valueText value bits)
          | .error fault => faultText address fault)) := by
  intro done
  have split : s.bus.write (s.nextWrite address value width) = (done.1, done.2) := rfl
  generalize done.1 = bus, done.2 = result at split ⊢
  rw [nextWrite] at split
  rw [write, processorAccess, ok]
  dsimp only
  rw [split]
  cases result <;> rfl

/-- A write shows a value only if it was carried out, and then the one that it was given. -/
theorem write_of_echo (ok : Width.ofBits bits = .ok width) {digits : String}
    (echoed : (s.write address value bits).2 = .ok (echo address " <- " digits)) :
    let done := s.bus.write (s.nextWrite address value width)
    digits = valueText value bits ∧ done.2 = .ok () ∧
      (s.write address value bits).1.bus = done.1 := by
  intro done
  rw [write_eq ok] at echoed ⊢
  cases result : (s.bus.write (s.nextWrite address value width)).2 with
  | ok =>
    rw [result] at echoed
    exact ⟨(echo_inj.mp (Except.ok.inj echoed)).symm, rfl, rfl⟩
  | error fault =>
    rw [result] at echoed
    exact absurd (Except.ok.inj echoed) (faultText_ne_echo fault digits)

/-- **A read of the memory that a write stored to.** It shows what the write showed just if the
value fits the width, and bytes of it that lead to one byte are equal. While ids suffice for
the targets of the session, no two do, and what is read is the value cut down to the width. -/
theorem read_shows_stored {p : MonitorProfile} {trace : Option ℕ} (built : build p trace = .ok s)
    (cs : List Command) {line : String}
    (parsed : Command.parse line = .ok (.write address value bits)) {cells : ℕ → Cell}
    (ram : ∀ i < bits.toNat / 8,
      (s.after cs).bus.ReadsBack (address + i.toUInt32) (cells i)) {digits : String}
    (echoed : ((s.after cs).execute (.write address value bits)).2 =
      .ok (echo address " <- " digits)) :
    digits = valueText value bits ∧ ∃ found,
      (((s.after cs).execute (.write address value bits)).1.execute (.read address bits)).2 =
        .ok (echo address " -> " (valueText found bits)) ∧
      (valueText found bits = digits ↔ value.toNat < 2 ^ bits.toNat ∧
        ∀ i < bits.toNat / 8, ∀ j < bits.toNat / 8, cells i = cells j →
          Access.valueByte value i = Access.valueByte value j) ∧
      (s.bus.arena.size ≤ 2 ^ 32 →
        (∀ i < bits.toNat / 8, ∀ j < bits.toNat / 8, cells i = cells j → i = j) ∧
          found.toNat = value.toNat % 2 ^ bits.toNat) := by
  obtain ⟨width, ok⟩ := Command.sized_of_parse parsed
  have count := Width.toNat_of_ofBits ok
  have lanes : bits.toNat / 8 = width.bytes := by omega
  rw [lanes] at ram ⊢
  have idle := ((s.after_leads cs).reachable (build_reachable built)).commands_eq_nil
  obtain ⟨rfl, written, after⟩ := write_of_echo ok echoed
  obtain ⟨found, read, same, apart⟩ := Bus.read_of_write idle ram rfl written
    (r := ((s.after cs).write address value bits).1.nextRead address width) rfl rfl rfl rfl
  refine ⟨rfl, found, ?_, ?_, fun few => ?_⟩
  · rw [execute, execute, Session.read_eq ok, after, read]
  · have fits := width.and_mask_eq_iff value
    rw [← count] at fits
    rw [valueText_inj, ← fits]
    exact same
  · obtain ⟨origin, anchored⟩ := build_anchored built few
    have distinct : ∀ i < width.bytes, ∀ j < width.bytes, cells i = cells j → i = j := by
      intro i lt j lt' clash
      have lands := (ram j lt').write
      rw [← clash] at lands
      exact (after_anchored anchored cs).lane_unique (Nat.lt_of_lt_of_le lt width.bytes_le)
        (Nat.lt_of_lt_of_le lt' width.bytes_le) (ram i lt).write lands
    have cut : found = value &&& width.mask := apart distinct
    exact ⟨distinct, by rw [cut, width.toNat_and_mask, ← count]⟩

/-- Memory of four pages of four bytes, under a layer on the third. -/
def patched : MonitorProfile where
  machine :=
    { name := "patched"
      addressBits := 4
      pageShift := 2
      regions :=
        [{ name := "ram", start := 0, size := 0x10, perms := .all, region := .ram,
           kind := .memory (.ram 0) }] }
  layers := [{ name := "patch", start := 8, size := 4, active := true }]
  blocks := []

/-- A value that fits is stored half in the memory and half in the layer, and read as it
was shown. -/
theorem read_shows_stored_patched :
    ∃ s, ∃ cells : ℕ → Cell, ∃ found, build patched none = .ok s ∧
      Command.parse "write 7 201 16" = .ok (.write 7 0x201 16) ∧
      (∀ i < 2, s.bus.ReadsBack (7 + i.toUInt32) (cells i)) ∧
      (s.execute (.write 7 0x201 16)).2 = .ok (echo 7 " <- " "0201") ∧
      ((s.execute (.write 7 0x201 16)).1.execute (.read 7 16)).2 =
        .ok (echo 7 " -> " (valueText found 16)) ∧
      found.toNat = 0x201 := by
  have run : ((build patched none).toOption.map fun s =>
      (decide (∀ i < 2, s.bus.ReadsBack (7 + i.toUInt32) (if i = 0 then ⟨⟨0⟩, 7⟩ else ⟨⟨1⟩, 0⟩)),
        s.bus.arena.size, (s.execute (.write 7 0x201 16)).2.toOption)) =
      some (true, 2, some (echo 7 " <- " "0201")) := by
    decide_cbv
  have parsed : Command.parse "write 7 201 16" = .ok (.write 7 0x201 16) := by decide_cbv
  obtain ⟨s, built, values⟩ := Option.map_eq_some_iff.mp run
  rw [toOption_eq_some_iff] at built
  rw [Prod.mk.injEq, Prod.mk.injEq, toOption_eq_some_iff] at values
  obtain ⟨ram, size, echoed⟩ := values
  have ram := of_decide_eq_true ram
  obtain ⟨-, found, read, -, cut⟩ := read_shows_stored built [] parsed ram echoed
  obtain ⟨-, cut⟩ := cut (by rw [size]; decide)
  exact ⟨s, _, found, built, parsed, ram, echoed, read, cut⟩

/-- A value that is wider than the access is shown whole, and read in part. -/
theorem echo_of_lost_digits :
    ∃ s cell, build patched none = .ok s ∧
      Command.parse "write 7 1FF" = .ok (.write 7 0x1ff 8) ∧
      (∀ i < 1, s.bus.ReadsBack (7 + i.toUInt32) cell) ∧
      (s.execute (.write 7 0x1ff 8)).2 = .ok (echo 7 " <- " "1FF") ∧
      ((s.execute (.write 7 0x1ff 8)).1.execute (.read 7 8)).2 = .ok (echo 7 " -> " "FF") := by
  have run : ((build patched none).toOption.map fun s =>
      (decide (∀ i < 1, s.bus.ReadsBack (7 + i.toUInt32) ⟨⟨0⟩, 7⟩),
        (s.execute (.write 7 0x1ff 8)).2.toOption,
        ((s.execute (.write 7 0x1ff 8)).1.execute (.read 7 8)).2.toOption)) =
      some (true, some (echo 7 " <- " "1FF"), some (echo 7 " -> " "FF")) := by
    decide_cbv
  have parsed : Command.parse "write 7 1FF" = .ok (.write 7 0x1ff 8) := by decide_cbv
  obtain ⟨s, built, values⟩ := Option.map_eq_some_iff.mp run
  rw [toOption_eq_some_iff] at built
  rw [Prod.mk.injEq, Prod.mk.injEq, toOption_eq_some_iff, toOption_eq_some_iff] at values
  obtain ⟨ram, echoed, read⟩ := values
  exact ⟨s, _, built, parsed, of_decide_eq_true ram, echoed, read⟩

end Session
end Backplane
