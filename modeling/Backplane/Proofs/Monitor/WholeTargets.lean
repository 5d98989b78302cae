import Mathlib
import Backplane.Proofs.Bus.Origins
import Backplane.Proofs.Monitor.Run

/-!
# Origins in a session

Building shows nothing but whole targets, and gives each part of a composite region to its
own window only. So the targets of a session have origins when it is built
(`build_anchored`), and its commands leave them where they are (`after_anchored`).
-/

namespace Backplane

section

variable {σ : Type} {a : Arena σ} {origin : TargetId → UInt32} {target : Target σ}

/-- What leads to no other may begin anywhere. -/
theorem Target.IsLeaf.admits (leaf : target.IsLeaf) (place : UInt32) :
    a.Admits origin target place := by
  rintro _ _ _ (_ | _ | _) <;> exact leaf.elim

/-- While ids suffice for its targets, a bus that is being built has origins with which the
next target may begin where pages do. -/
theorem Bus.Builds.anchored [DeviceModel σ] {g : Geometry} {b : Bus σ}
    {making : Option (Target σ)} (h : b.Builds g making) (room : b.arena.size ≤ 2 ^ 32) :
    ∃ origin, b.Anchored origin ∧ ∀ target ∈ making, b.arena.Admits origin target 0 := by
  induction h with
  | empty => exact ⟨fun _ => 0, anchored_empty g _, nofun⟩
  | leaf _ leaf ih =>
    obtain ⟨origin, anchored, -⟩ := ih room
    refine ⟨origin, anchored, ?_⟩
    rintro _ ⟨⟩
    exact leaf.admits 0
  | gap size _ ih =>
    obtain ⟨origin, anchored, -⟩ := ih room
    refine ⟨origin, anchored, ?_⟩
    rintro _ ⟨⟩ next start stop on
    cases on with
    | window mem => cases mem
  | @part b b' w s name target _ leaf added whole ih =>
    have grown := size_of_addTarget added
    obtain ⟨origin, anchored, admits⟩ := ih (by omega)
    -- The origin of the part is where its window has it.
    obtain ⟨anchored', here, old⟩ := anchored.addTarget added room (leaf.admits s.offset)
    refine ⟨_, anchored', ?_⟩
    rintro _ ⟨⟩ next start stop on
    cases on with | window mem =>
    rcases Window.mem_withPart.mp mem with rfl | mem
    · exact ⟨⟨_, here⟩, by rw [Function.update_self, whole, UInt32.add_zero, UInt32.zero_add]⟩
    · obtain ⟨⟨u, known⟩, sum⟩ := admits _ rfl (.window mem)
      obtain ⟨other, there⟩ := old known
      exact ⟨⟨u, there⟩, by rw [Function.update_of_ne other, sum]⟩
  | shown _ added shows ih =>
    rw [arena_run_of_shows shows] at room
    have grown := size_of_addTarget added
    obtain ⟨origin, anchored, admits⟩ := ih (by omega)
    obtain ⟨anchored', -, -⟩ := anchored.addTarget added room (admits _ rfl)
    refine ⟨_, anchored'.run fun o mem => (shows o mem).imp ?_, nofun⟩
    rintro _ rfl
    exact Function.update_self _ _ _
  | bare o _ shows ih =>
    rw [arena_perform_of_shows shows] at room
    obtain ⟨origin, anchored, -⟩ := ih room
    exact ⟨origin, anchored.perform o (shows.imp fun _ never => never.elim), nofun⟩

end

namespace Session

theorem build_anchored {p : MonitorProfile} {trace : Option ℕ} {s : Session}
    (built : build p trace = .ok s) (room : s.bus.arena.size ≤ 2 ^ 32) :
    ∃ origin, s.bus.Anchored origin := by
  obtain ⟨g, -, builds⟩ := build_builds built
  obtain ⟨origin, anchored, -⟩ := builds.anchored room
  exact ⟨origin, anchored⟩

variable {s : Session} {origin : TargetId → UInt32}

theorem execute_anchored (h : s.bus.Anchored origin) (c : Command) :
    (s.execute c).1.bus.Anchored origin := by
  rw [(s.execute_bus c).1]
  cases operation : s.operation? c with
  | none => exact h
  | some o =>
    rcases s.operation?_cases operation with ⟨t, rfl⟩ | ⟨name, rfl⟩ | ⟨name, rfl⟩ | rfl
    · exact h.transfer t
    · exact h.perform (.activateNamed name) trivial
    · exact h.perform (.deactivateNamed name) trivial
    · exact h.perform .drainNotices trivial

theorem after_anchored (h : s.bus.Anchored origin) (cs : List Command) :
    (s.after cs).bus.Anchored origin := by
  induction cs generalizing s with
  | nil => exact h
  | cons c cs ih => exact ih (execute_anchored h c)

end Session
end Backplane
