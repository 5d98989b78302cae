import Mathlib
import Backplane.Proofs.Monitor.Building

/-!
# Runs of a session

A session is built by operations on its bus (`build_leads`), and each command is
carried out by at most one more (`Session.operation?`, `execute_bus`). So what
operations keep, a session keeps, whatever its profile and its commands.
-/

namespace Backplane

/-! ## Operations that lead on -/

/-- Operations lead from one bus to another. -/
def Bus.Leads {σ : Type} [DeviceModel σ] (b b' : Bus σ) : Prop := ∃ os, b' = b.run os

namespace Bus.Leads

variable {σ : Type} [DeviceModel σ] {b b' b'' : Bus σ}

theorem refl (b : Bus σ) : b.Leads b := ⟨[], rfl⟩

theorem perform (h : b.Leads b') (o : Operation σ) : b.Leads (b'.perform o) := by
  obtain ⟨os, rfl⟩ := h
  refine ⟨os ++ [o], ?_⟩
  rw [run, run, List.foldl_append]
  rfl

theorem trans (h : b.Leads b') (h' : b'.Leads b'') : b.Leads b'' := by
  obtain ⟨os, rfl⟩ := h
  obtain ⟨os', rfl⟩ := h'
  refine ⟨os ++ os', ?_⟩
  rw [run, run, run, List.foldl_append]

theorem reachable (h : b.Leads b') (start : b.Reachable) : b'.Reachable := by
  obtain ⟨os, rfl⟩ := h
  exact start.run os

theorem geometry_eq (h : b.Leads b') : b'.geometry = b.geometry := by
  obtain ⟨os, rfl⟩ := h
  exact (b.run_follows os).geometry_eq

end Bus.Leads

/-- Building is done by operations. -/
theorem Bus.Builds.leads {σ : Type} [DeviceModel σ] {g : Geometry} {b : Bus σ}
    {making : Option (Target σ)} (h : b.Builds g making) : (Bus.empty g).Leads b := by
  induction h with
  | empty => exact .refl _
  | leaf _ _ ih | gap _ _ ih => exact ih
  | part _ _ added _ ih =>
    obtain rfl := congrArg Prod.fst added
    exact ih.perform (.addTarget _ _)
  | shown _ added _ ih =>
    obtain rfl := congrArg Prod.fst added
    exact (ih.perform (.addTarget _ _)).trans ⟨_, rfl⟩
  | bare o _ _ ih => exact ih.perform o

namespace Session

/-! ## Building -/

/-- A session is built by operations on a bus of the geometry of its profile. -/
theorem build_leads {p : MonitorProfile} {trace : Option Nat} {s : Session}
    (built : build p trace = .ok s) :
    ∃ g : Geometry, g.addressBits = p.machine.addressBits.toNat ∧ (Bus.empty g).Leads s.bus := by
  obtain ⟨g, bits, builds⟩ := build_builds built
  exact ⟨g, bits, builds.leads⟩

theorem build_reachable {p : MonitorProfile} {trace : Option Nat} {s : Session}
    (built : build p trace = .ok s) : s.bus.Reachable := by
  obtain ⟨g, -, leads⟩ := build_leads built
  exact leads.reachable (.empty g)

/-! ## Commands -/

variable (s : Session)

/-- The operation on the bus by which a command is carried out, if there is one. -/
def operation? : Command → Option (Operation SwitchBank)
  | .dump start length =>
    if s.bus.geometry.spaceSize < start.toNat + length.toNat then none
    else some (.transfer (.capture start length.toNat .debugRead))
  | .peek address => some (.transfer (.peekByte address))
  | .poke address bytes =>
    some (.transfer (.writeMany
      (Access.fromTooling { address := address, intent := .debugWrite, mode := .decomposed })
      bytes))
  | .read address bits =>
    match s.processorAccess address .dataRead bits with
    | .error _ => none
    | .ok (_, access) => some (.transfer (.read access))
  | .write address value bits =>
    match s.processorAccess address .dataWrite bits with
    | .error _ => none
    | .ok (_, access) => some (.transfer (.write { access with value := value }))
  | .layer name on => some (if on then .activateNamed name else .deactivateNamed name)
  | .events => some .drainNotices
  | .regions | .layers | .trace _ | .devices | .help => none

/-- A command adds nothing to a bus: it transfers, switches a layer or takes notices out. -/
theorem operation?_cases {c : Command} {o : Operation SwitchBank} (h : s.operation? c = some o) :
    (∃ t, o = .transfer t) ∨ (∃ name, o = .activateNamed name) ∨
      (∃ name, o = .deactivateNamed name) ∨ o = .drainNotices := by
  cases c with
  | dump | read | write =>
    simp only [operation?] at h
    split at h
    · cases h
    · cases h
      exact .inl ⟨_, rfl⟩
  | peek | poke =>
    cases h
    exact .inl ⟨_, rfl⟩
  | layer name on =>
    cases on with
    | true =>
      cases h
      exact .inr (.inl ⟨name, rfl⟩)
    | false =>
      cases h
      exact .inr (.inr (.inl ⟨name, rfl⟩))
  | events =>
    cases h
    exact .inr (.inr (.inr rfl))
  | regions | layers | trace | devices | help => cases h

theorem processorAccess_bus {s s' : Session} {address : UInt32} {intent : Intent} {bits : UInt8}
    {access : Access} (h : s.processorAccess address intent bits = .ok (s', access)) :
    s'.bus = s.bus ∧ s'.devices = s.devices := by
  unfold processorAccess at h
  split at h
  · cases h
  · cases h
    exact ⟨rfl, rfl⟩

/-- A command does to the bus what its operation does, and nothing to the devices. -/
theorem execute_bus (c : Command) :
    (s.execute c).1.bus = (s.operation? c).elim s.bus s.bus.perform ∧
      (s.execute c).1.devices = s.devices := by
  cases c with
  | dump start length =>
    simp only [execute, dump, operation?]
    split <;> exact ⟨rfl, rfl⟩
  | peek address =>
    simp only [execute, peek, operation?, Option.elim, Bus.perform, Bus.transfer]
    obtain ⟨bus, result⟩ := s.bus.peekByte address
    cases result <;> exact ⟨rfl, rfl⟩
  | poke address bytes => exact ⟨rfl, rfl⟩
  | read address bits =>
    simp only [execute, read, operation?]
    cases counted : s.processorAccess address .dataRead bits with
    | error cause => exact ⟨rfl, rfl⟩
    | ok next =>
      obtain ⟨s', access⟩ := next
      obtain ⟨bus, devices⟩ := processorAccess_bus counted
      simp only [Option.elim, Bus.perform, Bus.transfer, ← bus, ← devices]
      obtain ⟨after, result⟩ := s'.bus.read access
      cases result <;> exact ⟨rfl, rfl⟩
  | write address value bits =>
    simp only [execute, write, operation?]
    cases counted : s.processorAccess address .dataWrite bits with
    | error cause => exact ⟨rfl, rfl⟩
    | ok next =>
      obtain ⟨s', access⟩ := next
      obtain ⟨bus, devices⟩ := processorAccess_bus counted
      simp only [Option.elim, Bus.perform, Bus.transfer, ← bus, ← devices]
      obtain ⟨after, result⟩ := s'.bus.write { access with value := value }
      cases result <;> exact ⟨rfl, rfl⟩
  | layer name on =>
    cases on with
    | true =>
      simp only [execute, setLayer, operation?, if_true, Option.elim, Bus.perform]
      obtain ⟨bus, result⟩ := s.bus.activateNamed name
      cases result <;> exact ⟨rfl, rfl⟩
    | false =>
      simp only [execute, setLayer, operation?, Bool.false_eq_true, if_false, Option.elim,
        Bus.perform]
      obtain ⟨bus, result⟩ := s.bus.deactivateNamed name
      cases result <;> exact ⟨rfl, rfl⟩
  | regions | layers | trace | events | devices | help => exact ⟨rfl, rfl⟩

/-- The session after commands in order, whether they succeed or fail. -/
def after (cs : List Command) : Session := cs.foldl (fun s c => (s.execute c).1) s

theorem execute_leads (c : Command) : s.bus.Leads (s.execute c).1.bus := by
  rw [(s.execute_bus c).1]
  cases s.operation? c with
  | none => exact .refl _
  | some o => exact .perform (.refl _) o

theorem after_leads (cs : List Command) : s.bus.Leads (s.after cs).bus := by
  induction cs generalizing s with
  | nil => exact .refl _
  | cons c cs ih => exact (s.execute_leads c).trans (ih _)

end Session
end Backplane
