import Mathlib
import Backplane.Run.Control

/-!
# Turns of a run

A turn asks for a stop request first, and then whether the limit is reached; if neither ends the
run, it executes an instruction (`turn_of_stop`, `turn_of_reaches`, `turn_of_room`). What a turn
that ends the run leaves behind is said by `turn_ends`, and what one leaves after which the run
goes on by `turn_next`.
-/

namespace Backplane.Run

variable {π σ : Type} [Processor π σ] {limit : Option UInt64} {n : UInt64} {turns : Nat}
  {r r' : Run π σ} {ending : Ending}

/-! ## Turns -/

/-- The turn that neither a stop request nor the limit ends. -/
def execute (r : Run π σ) : Run π σ × Option Ending :=
  let s := Processor.step r.processor r.bus
  let r' : Run π σ :=
    { r with
      processor := s.processor
      bus := s.bus
      control := { r.control with stop := r.control.stop || s.stop } }
  match s.outcome with
  | .retired cycles =>
    ({ r' with steps := r.steps + 1, cycles := r.cycles + cycles.toUInt64 }, none)
  | .halted => (r', some (.stopped .halted))
  | .fault fault => (r', some (.stopped (.fault fault)))
  | .crashed => ({ r' with processor := r.processor }, some .crashed)

/-- The cycles that the instruction takes which the processor is at. -/
def cost (r : Run π σ) : UInt32 :=
  match (Processor.step r.processor r.bus).outcome with
  | .retired cycles => cycles
  | .halted | .fault _ | .crashed => 0

theorem turn_of_stop (stop : r.control.stop = true) :
    r.turn limit = (r, some (.stopped .stopRequested)) :=
  if_pos stop

theorem turn_of_reaches (stop : r.control.stop = false) (reached : reaches limit r.steps = true) :
    r.turn limit = (r, some (.stopped .limitReached)) := by
  rw [turn, if_neg (ne_true_of_eq_false stop), if_pos reached]

theorem turn_of_room (stop : r.control.stop = false) (room : reaches limit r.steps = false) :
    r.turn limit = r.execute := by
  rw [turn, if_neg (ne_true_of_eq_false stop), if_neg (ne_true_of_eq_false room)]
  rfl

/-- A run is stopped by a request only if one stands. -/
theorem stop_of_turn (h : r.turn limit = (r', some (.stopped .stopRequested))) :
    r.control.stop = true := by
  cases stop : r.control.stop with
  | true => rfl
  | false =>
    cases room : reaches limit r.steps with
    | true =>
      rw [turn_of_reaches stop room] at h
      cases h
    | false =>
      rw [turn_of_room stop room] at h
      unfold execute at h
      cases outcome : (Processor.step r.processor r.bus).outcome with
      | retired | halted | fault | crashed =>
        simp only [outcome] at h
        cases h

omit [Processor π σ] in
theorem reaches_some : reaches (some n) r.steps = decide (n ≤ r.steps) := rfl

/-- After an instruction the run goes on with its counts put up. -/
theorem execute_next (h : r.execute = (r', none)) :
    r'.steps = r.steps + 1 ∧ r'.cycles = r.cycles + r.cost.toUInt64 ∧
      r'.control.state = r.control.state := by
  unfold execute at h
  unfold cost
  cases outcome : (Processor.step r.processor r.bus).outcome with
  | retired cycles =>
    simp only [outcome] at h
    cases h
    exact ⟨rfl, rfl, rfl⟩
  | halted | fault | crashed =>
    simp only [outcome] at h
    cases h

/-- An instruction that ends the run is not counted, and has not reached the limit. -/
theorem execute_ends (h : r.execute = (r', some ending)) :
    r'.steps = r.steps ∧ r'.cycles = r.cycles ∧ ending ≠ .stopped .limitReached := by
  unfold execute at h
  cases outcome : (Processor.step r.processor r.bus).outcome with
  | retired cycles =>
    simp only [outcome] at h
    cases h
  | halted | fault | crashed =>
    simp only [outcome] at h
    cases h
    exact ⟨rfl, rfl, nofun⟩

/-- A turn that ends the run leaves its counts as they are, and all else at the limit. -/
theorem turn_ends (h : r.turn limit = (r', some ending)) :
    r'.steps = r.steps ∧ r'.cycles = r.cycles ∧
      (ending = .stopped .limitReached →
        r' = r ∧ r.control.stop = false ∧ reaches limit r.steps = true) := by
  cases stop : r.control.stop with
  | true =>
    rw [turn_of_stop stop] at h
    cases h
    exact ⟨rfl, rfl, nofun⟩
  | false =>
    cases room : reaches limit r.steps with
    | true =>
      rw [turn_of_reaches stop room] at h
      cases h
      exact ⟨rfl, rfl, fun _ => ⟨rfl, rfl, rfl⟩⟩
    | false =>
      rw [turn_of_room stop room] at h
      obtain ⟨steps, cycles, other⟩ := execute_ends h
      exact ⟨steps, cycles, fun reached => absurd reached other⟩

/-- A turn after which the run goes on has executed an instruction within the limit. -/
theorem turn_next (h : r.turn limit = (r', none)) :
    r.control.stop = false ∧ reaches limit r.steps = false ∧ r.execute = (r', none) := by
  cases stop : r.control.stop with
  | true =>
    rw [turn_of_stop stop] at h
    cases h
  | false =>
    cases room : reaches limit r.steps with
    | true =>
      rw [turn_of_reaches stop room] at h
      cases h
    | false => exact ⟨rfl, rfl, turn_of_room stop room ▸ h⟩

/-- There is room for an instruction, and it is counted. -/
theorem toNat_steps_next (h : r.turn (some n) = (r', none)) :
    r.steps.toNat < n.toNat ∧ r'.steps.toNat = r.steps.toNat + 1 := by
  obtain ⟨-, room, next⟩ := turn_next h
  rw [reaches_some, decide_eq_false_iff_not, UInt64.not_le, UInt64.lt_iff_toNat_lt] at room
  have bound := n.toNat_lt
  refine ⟨room, ?_⟩
  rw [(execute_next next).1, UInt64.toNat_add]
  exact Nat.mod_eq_of_lt (by change r.steps.toNat + 1 < 2 ^ 64; omega)

/-- An instruction within a limit is within every greater one. -/
theorem turn_mono {n' : UInt64} (h : r.turn (some n) = (r', none)) (le : n ≤ n') :
    r.turn (some n') = (r', none) := by
  obtain ⟨stop, room, next⟩ := turn_next h
  rw [reaches_some, decide_eq_false_iff_not, UInt64.not_le] at room
  have more : reaches (some n') r.steps = false :=
    decide_eq_false (UInt64.not_le.mpr (UInt64.lt_of_lt_of_le room le))
  rw [turn_of_room stop more, next]

/-! ## Loops -/

theorem loop_ends (h : r.turn limit = (r', some ending)) (pos : 0 < turns) :
    loop limit turns r = some (r'.finish ending, ending) := by
  obtain ⟨turns, rfl⟩ := Nat.exists_eq_succ_of_ne_zero (Nat.ne_of_gt pos)
  rw [loop, h]

theorem loop_next (h : r.turn limit = (r', none)) (turns : Nat) :
    loop limit (turns + 1) r = loop limit turns r' := by
  rw [loop, h]

end Backplane.Run
