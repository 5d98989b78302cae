import Mathlib
import Backplane.Proofs.Run.Interleaving

/-!
# Workers

What a worker may do in one step, opened once (`works`): it begins, its checks let an
instruction pass or end the run, it executes the instruction, and at the end of its run it takes
back any stop request before it tells how the run ended. The controller takes over from a worker
that has come to its end, and from no other (`join_of_ended`, `worker_join`).
-/

namespace Backplane

variable {π σ : Type}

/-- No instruction breaks its processor down. -/
def Processor.Steady (π σ : Type) [Processor π σ] : Prop :=
  ∀ (p : π) (b : Bus σ), (Processor.step p b).outcome ≠ .crashed

/-! ## Steps of the worker -/

/-- The worker has not come to its end. -/
def Phase.isBusy : Phase → Bool
  | finished _ | crashed => false
  | starting | looping | clearing _ | publishing _ => true

namespace Machine

variable {m m' : Machine π σ} {w : Worker π}

theorem isBusy_of_absent (h : m.worker = none) : m.isBusy = false := by
  rw [isBusy, h]

theorem isBusy_of_worker (h : m.worker = some w) : m.isBusy = w.phase.isBusy := by
  rw [isBusy, h]
  rfl

/-- A worker that has ended and is sound hands its processor back. -/
theorem join_of_ended (worker : m.worker = some w) (ended : m.isBusy = false)
    (sound : w.phase ≠ .crashed) :
    ∃ outcome, m.join =
      ({ m with worker := none, processor := some w.processor, lastOutcome := some outcome },
        .ok (some outcome)) := by
  rw [isBusy_of_worker worker] at ended
  rw [join, worker]
  cases phase : w.phase with
  | finished reason =>
    simp only [phase]
    exact ⟨_, rfl⟩
  | crashed => exact absurd phase sound
  | starting | looping | clearing _ | publishing _ =>
    rw [phase] at ended
    cases ended

/-- There is no worker any more. -/
theorem worker_join (ended : m.isBusy = false) : m.join.1.worker = none := by
  unfold join
  cases worker : m.worker with
  | none => exact worker
  | some w =>
    rw [isBusy_of_worker worker] at ended
    dsimp only
    cases phase : w.phase with
    | finished | crashed => rfl
    | starting | looping | clearing | publishing =>
      rw [phase] at ended
      cases ended

/-- No halt is cleared by it. -/
theorem halted_join (h : m.control.state = .halted) : m.join.1.control.state = .halted := by
  unfold join
  cases m.worker with
  | none => exact h
  | some w =>
    dsimp only
    cases w.phase with
    | crashed => rfl
    | starting | looping | clearing | publishing | finished => exact h

theorem withBus_worker {α : Type} (m : Machine π σ) (f : Bus σ → Bus σ × α) :
    (m.withBus f).1.worker = m.worker := by
  unfold withBus
  split <;> rfl

theorem withBus_control {α : Type} (m : Machine π σ) (f : Bus σ → Bus σ × α) :
    (m.withBus f).1.control = m.control := by
  unfold withBus
  split <;> rfl

@[simp] theorem stopping_worker (m : Machine π σ) : m.stopping.worker = m.worker := by
  unfold stopping
  split <;> rfl

@[simp] theorem stopping_processor (m : Machine π σ) : m.stopping.processor = m.processor := by
  unfold stopping
  split <;> rfl

@[simp] theorem stopping_poisoned (m : Machine π σ) : m.stopping.poisoned = m.poisoned := by
  unfold stopping
  split <;> rfl

@[simp] theorem stopping_state (m : Machine π σ) :
    m.stopping.control.state = m.control.state := by
  unfold stopping
  split <;> rfl

theorem isBusy_congr (same : m'.worker = m.worker) : m'.isBusy = m.isBusy := by
  rw [isBusy, isBusy, same]

@[simp] theorem stopping_isBusy (m : Machine π σ) : m.stopping.isBusy = m.isBusy :=
  isBusy_congr m.stopping_worker

theorem stop_stopping (h : m.control.stop = true) : m.stopping.control.stop = true := by
  unfold stopping
  split
  · exact h
  · rfl

/-- What the worker may do in one step, on a bus that is not spoiled. -/
inductive Works (m : Machine π σ) (w : Worker π) :
    Bool → Machine π σ × Bool × Option RunEvent → Prop where
  /-- It begins. -/
  | begins {engaged : Bool} (phase : w.phase = .starting) :
    Works m w engaged
      ({ m with
          control := { m.control with state := .running }
          worker := some { w with phase := .looping } }, false, none)
  /-- Its checks let an instruction pass. -/
  | passes (phase : w.phase = .looping) (stop : m.control.stop = false) :
    Works m w false (m, true, none)
  /-- Its checks end the run. -/
  | leaves (phase : w.phase = .looping) (reason : StopReason) :
    Works m w false (m.leave w reason, false, none)
  /-- It executes an instruction, and goes on. -/
  | retires (phase : w.phase = .looping) (bus : Bus σ) (stop : Bool) (cycles : UInt32)
      (w' : Worker π) (phase' : w'.phase = .looping) :
    Works m w true
      ({ m with
          bus := bus
          control := { m.control with stop := m.control.stop || stop }
          worker := some w' }, false, some (.executed (.retired cycles)))
  /-- It executes an instruction that ends the run. -/
  | stops (phase : w.phase = .looping) (bus : Bus σ) (stop : Bool) (outcome : StepOutcome)
      (w' : Worker π) (reason : StopReason) (halts : reason.state = .halted) :
    Works m w true
      (({ m with
          bus := bus
          control := { m.control with stop := m.control.stop || stop } } : Machine π σ).leave
            w' reason, false, some (.executed outcome))
  /-- It takes back any stop request. -/
  | clears {engaged : Bool} (reason : StopReason) (phase : w.phase = .clearing reason) :
    Works m w engaged
      ({ m with
          control := { m.control with stop := false }
          worker := some { w with phase := .publishing reason } }, false, none)
  /-- It tells how the run ended. -/
  | publishes {engaged : Bool} (reason : StopReason) (phase : w.phase = .publishing reason) :
    Works m w engaged
      ({ m with
          control := { m.control with state := reason.state }
          worker := some { w with phase := .finished reason } }, false, some (.ended reason))
  /-- It has ended. -/
  | rests {engaged : Bool} (reason : StopReason) (phase : w.phase = .finished reason) :
    Works m w engaged (m, false, none)

theorem works [Processor π σ] (steady : Processor.Steady π σ) (worker : m.worker = some w)
    (unspoiled : m.poisoned = false) (sound : w.phase ≠ .crashed) (engaged : Bool) :
    m.Works w engaged (m.work engaged) := by
  unfold work
  rw [worker]
  dsimp only
  cases phase : w.phase with
  | crashed => exact absurd phase sound
  | starting =>
    simp only [advance, worker, phase]
    exact .begins phase
  | clearing reason =>
    simp only [advance, worker, phase]
    exact .clears reason phase
  | publishing reason =>
    simp only [advance, worker, phase]
    exact .publishes reason phase
  | finished reason =>
    simp only [advance, worker, phase]
    exact .rests reason phase
  | looping =>
    cases engaged with
    | false =>
      simp only [if_neg Bool.false_ne_true]
      cases refused : m.refusal? w with
      | some reason => exact .leaves phase reason
      | none =>
        refine .passes phase ?_
        unfold refusal? at refused
        split at refused
        · cases refused
        · rename_i unasked
          exact eq_false_of_ne_true unasked
    | true =>
      have clean : ¬m.poisoned = true := ne_true_of_eq_false unspoiled
      rw [if_pos rfl, execute, if_neg clean, if_neg clean]
      have whole := steady w.processor m.bus
      generalize Processor.step w.processor m.bus = s at whole ⊢
      obtain ⟨p, bus, stop, outcome⟩ := s
      cases outcome with
      | retired cycles => exact .retires phase bus stop cycles _ phase
      | halted => exact .stops phase bus stop _ _ .halted rfl
      | fault fault => exact .stops phase bus stop _ _ (.fault fault) rfl
      | crashed => exact absurd rfl whole

end Machine

end Backplane
