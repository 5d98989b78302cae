import Mathlib
import Backplane.Proofs.Run.Asking

/-!
# Waiting for the worker

While the controller waits for a worker in its run, no other party changes what the two are at
(`Joins.act`), and as long as a request stands, the worker is still to take it back, unless it
breaks down (`Awaited.act`, `Heeded.act`), and no run is started (`Waits.act`).

Whatever an instruction does to its processor, there is one worker at most (`Sole`).
-/

namespace Backplane

variable {π σ : Type}

/-- The worker has taken back any stop request, or never will. -/
def Phase.isPast : Phase → Bool
  | publishing _ | finished _ | crashed => true
  | starting | looping | clearing _ => false

theorem Phase.isBusy_of_isPast {phase : Phase} (h : phase.isPast = false) :
    phase.isBusy = true := by
  cases phase with
  | starting | looping | clearing => rfl
  | publishing | finished | crashed => cases h

namespace Machine

variable {m : Machine π σ}

/-- A worker that is not taken over from keeps the processor. -/
theorem join_lone (lone : m.worker.isSome = true → m.processor = none) :
    m.join.1.worker.isSome = true → m.join.1.processor = none := by
  unfold join
  split
  · exact lone
  · split
    · exact fun here => by cases here
    · exact fun here => by cases here
    all_goals exact lone

theorem withBus_processor {α : Type} (m : Machine π σ) (f : Bus σ → Bus σ × α) :
    (m.withBus f).1.processor = m.processor := by
  unfold withBus
  split <;> rfl

variable [Processor π σ]

/-- While a request stands, a worker that is to take it back stays one, unless it breaks down. -/
theorem work_of_stop {w : Worker π} {engaged : Bool} (worker : m.worker = some w)
    (early : w.phase.isPast = false) (high : (m.work engaged).1.control.stop = true) :
    (∃ w', (m.work engaged).1.worker = some w' ∧ w'.phase.isPast = false) ∨
      (m.work engaged).2.2 = some (.executed .crashed) := by
  unfold work at high ⊢
  rw [worker] at high ⊢
  dsimp only at high ⊢
  cases phase : w.phase with
  | publishing | finished | crashed =>
    rw [phase] at early
    cases early
  | clearing reason =>
    simp only [phase, advance, worker] at high
    cases high
  | starting =>
    simp only [advance, worker, phase]
    exact .inl ⟨_, rfl, rfl⟩
  | looping =>
    dsimp only
    split
    · rw [execute]
      split
      · exact .inl ⟨_, rfl, rfl⟩
      · dsimp only
        cases (Processor.step w.processor m.bus).outcome with
        | retired cycles =>
          exact .inl ⟨_, rfl, by rw [phase]; rfl⟩
        | halted | fault => exact .inl ⟨_, rfl, rfl⟩
        | crashed => exact .inr rfl
    · split
      · exact .inl ⟨_, rfl, rfl⟩
      · exact .inl ⟨w, worker, by rw [phase]; rfl⟩

/-- A worker that has taken back any request never comes to one again. -/
theorem early_of_work {w' : Worker π} {engaged : Bool}
    (here : (m.work engaged).1.worker = some w') (early : w'.phase.isPast = false) :
    ∃ w, m.worker = some w ∧ w.phase.isPast = false := by
  cases worker : m.worker with
  | none =>
    rw [work, worker] at here
    cases worker.symm.trans here
  | some w =>
    cases phase : w.phase with
    | starting | looping | clearing => exact ⟨w, rfl, by rw [phase]; rfl⟩
    | publishing reason =>
      simp only [work, worker, phase, advance] at here
      cases here
      cases early
    | finished | crashed =>
      simp only [work, worker, phase, advance] at here
      cases here
      rw [phase] at early
      cases early

/-- The worker neither comes nor goes by a step of its own, nor does the machine's processor. -/
theorem work_keeps (m : Machine π σ) (engaged : Bool) :
    (m.work engaged).1.processor = m.processor ∧
      (m.work engaged).1.worker.isSome = m.worker.isSome := by
  cases worker : m.worker with
  | none =>
    rw [work, worker]
    exact ⟨rfl, congrArg Option.isSome worker⟩
  | some w =>
    cases phase : w.phase with
    | starting | clearing | publishing | finished | crashed =>
      simp [work, worker, phase, advance]
    | looping =>
      simp only [work, worker, phase]
      split
      · unfold execute
        split
        · exact ⟨rfl, rfl⟩
        · dsimp only
          split
          all_goals exact ⟨rfl, rfl⟩
      · split
        · exact ⟨rfl, rfl⟩
        · exact ⟨rfl, congrArg Option.isSome worker⟩

end Machine

namespace System

variable {s : System π σ}

/-! ## One worker -/

/-- There is one worker at most, and with it or at hand is the only processor. -/
structure Sole (s : System π σ) : Prop where
  strays : s.strays = []
  worker : s.machine.worker.isSome = true → s.machine.processor = none ∧ s.stage.hand? = none
  hand : s.stage.hand?.isSome = true → s.machine.processor = none

theorem Sole.proceed (h : s.Sole) : s.proceed.1.Sole := by
  obtain ⟨m, strays, engaged, stage⟩ := s
  obtain ⟨none_astray, worker, hand⟩ := h
  have moves {m' : Machine π σ} {next : Stage π} (empty : next.hand? = none)
      (lone : m'.worker.isSome = true → m'.processor = none) :
      Sole ⟨m', strays, engaged, next⟩ :=
    ⟨none_astray, fun here => ⟨lone here, empty⟩, fun here => by rw [empty] at here; cases here⟩
  have lone (here : m.worker.isSome = true) : m.processor = none := (worker here).1
  cases stage with
  | idle => exact moves rfl lone
  | entered call =>
    cases call with
    | wait => exact moves rfl lone
    | pause | halt =>
      refine moves rfl ?_
      rw [Machine.stopping_worker, Machine.stopping_processor]
      exact lone
    | spawn limit | resetHalt =>
      simp only [System.proceed, enter]
      split
      · exact moves rfl lone
      · exact moves rfl lone
  | joining call =>
    simp only [System.proceed, System.join]
    split
    · exact moves rfl lone
    · have lone' := m.join_lone lone
      generalize m.join = joined at lone'
      obtain ⟨m', e | outcome⟩ := joined
      all_goals
        cases call
        all_goals exact moves rfl lone'
  | asking limit =>
    simp only [System.proceed, ask]
    split
    · exact moves rfl lone
    · split
      · exact moves rfl lone
      · rename_i processor
        refine ⟨none_astray, fun here => ?_, fun _ => rfl⟩
        cases processor.symm.trans (lone here)
  | clearing | announcing =>
    refine ⟨none_astray, fun here => ?_, fun _ => hand rfl⟩
    cases (worker here).2
  | starting limit p =>
    have gone : m.worker = none := by
      cases found : m.worker with
      | none => rfl
      | some w => cases (worker (by rw [found]; rfl)).2
    refine ⟨?_, fun _ => ⟨hand rfl, rfl⟩, fun here => by cases here⟩
    simp only [System.proceed, launch, gone]
    exact none_astray
  | halting | resetting | releasing => exact moves rfl lone

variable [Processor π σ]

theorem Sole.act (h : s.Sole) (a : Act σ) : (s.act a).1.Sole := by
  cases a with
  | proceed => exact h.proceed
  | requestStop => exact ⟨h.strays, h.worker, h.hand⟩
  | work =>
    obtain ⟨processor, worker⟩ := s.machine.work_keeps s.engaged
    refine ⟨h.strays, fun here => ?_, fun here => processor.trans (h.hand here)⟩
    obtain ⟨absent, empty⟩ := h.worker (worker.symm.trans here)
    exact ⟨processor.trans absent, empty⟩
  | stray i =>
    simp only [System.act, h.strays, List.getElem?_nil]
    exact h
  | useBus use =>
    have worker := s.machine.withBus_worker fun b => (use b, ())
    have processor := s.machine.withBus_processor fun b => (use b, ())
    refine ⟨h.strays, fun here => ?_, fun here => processor.trans (h.hand here)⟩
    obtain ⟨absent, empty⟩ := h.worker ((congrArg Option.isSome worker).symm.trans here)
    exact ⟨processor.trans absent, empty⟩
  | call call =>
    cases stage : s.stage with
    | idle =>
      simp only [System.act, stage]
      refine ⟨h.strays, fun here => ⟨(h.worker here).1, rfl⟩, fun here => by cases here⟩
    | _ =>
      simp only [System.act, stage]
      exact h

/-! ## Waiting -/

/-- The controller waits for the worker. -/
def Joins (s : System π σ) (w : Worker π) : Prop :=
  s.machine.worker = some w ∧ ∃ call, s.stage = .joining call

/-- While the controller waits for a worker in its run, only the worker has a say in that. -/
theorem Joins.act {w : Worker π} (h : s.Joins w) (busy : w.phase.isBusy = true) {a : Act σ}
    (other : a ≠ .work) : (s.act a).1.Joins w := by
  obtain ⟨worker, call, stage⟩ := h
  cases a with
  | work => exact absurd rfl other
  | requestStop => exact ⟨worker, call, stage⟩
  | useBus use => exact ⟨(Machine.withBus_worker _ _).trans worker, call, stage⟩
  | call other =>
    simp only [System.act, stage]
    exact ⟨worker, call, stage⟩
  | proceed =>
    have waits : s.machine.isBusy = true := (Machine.isBusy_of_worker worker).trans busy
    simp only [System.act, System.proceed, stage, System.join, if_pos waits]
    exact ⟨worker, call, stage⟩
  | stray i =>
    simp only [System.act]
    split
    · exact ⟨worker, call, stage⟩
    · exact ⟨worker, call, stage⟩

/-- The controller waits for a worker that is still to take back any stop request. -/
def Awaited (s : System π σ) : Prop := ∃ w, s.Joins w ∧ w.phase.isPast = false

/-- As long as the request stands, the worker is waited for, unless it breaks down. -/
theorem Awaited.act (h : s.Awaited) (a : Act σ)
    (high : (s.act a).1.machine.control.stop = true) :
    (s.act a).1.Awaited ∨ a = .work ∧ (s.act a).2 = some (.executed .crashed) := by
  obtain ⟨w, joins, early⟩ := h
  by_cases work : a = .work
  · subst work
    rcases Machine.work_of_stop joins.1 early high with ⟨w', worker', early'⟩ | broken
    · exact .inl ⟨w', ⟨worker', joins.2⟩, early'⟩
    · exact .inr ⟨rfl, broken⟩
  · exact .inl ⟨w, joins.act (Phase.isBusy_of_isPast early) work, early⟩

/-- The controller waits for a worker that has left its loop, and is to take back any stop
request. -/
def Heeded (s : System π σ) : Prop := ∃ w reason, s.Joins w ∧ w.phase = .clearing reason

theorem Heeded.act (h : s.Heeded) (a : Act σ)
    (high : (s.act a).1.machine.control.stop = true) : (s.act a).1.Heeded := by
  obtain ⟨w, reason, joins, phase⟩ := h
  by_cases work : a = .work
  · subst work
    simp only [System.act, Machine.work, joins.1, phase, Machine.advance] at high
    cases high
  · exact ⟨w, reason, joins.act (by rw [phase]; rfl) work, phase⟩

/-- The controller is not about to start a run, and waits for a worker that is still to take back
any stop request. -/
structure Waits (s : System π σ) : Prop where
  cleared : s.stage.isCleared = false
  joins : ∀ w, s.machine.worker = some w → w.phase.isPast = false → s.Joins w

omit [Processor π σ] in
theorem Joins.waits {w : Worker π} (h : s.Joins w) : s.Waits := by
  obtain ⟨-, call, stage⟩ := h
  refine ⟨by rw [stage]; rfl, fun w worker _ => ⟨worker, call, stage⟩⟩

/-- As long as the request stands, no run is started. -/
theorem Waits.act (h : s.Waits) (a : Act σ)
    (high : (s.act a).1.machine.control.stop = true) : (s.act a).1.Waits := by
  cases a with
  | requestStop => exact ⟨h.cleared, h.joins⟩
  | useBus use =>
    have worker := s.machine.withBus_worker fun b => (use b, ())
    exact ⟨h.cleared, fun w here early => ⟨here, (h.joins w (worker.symm.trans here) early).2⟩⟩
  | work =>
    refine ⟨h.cleared, fun w' here early => ⟨here, ?_⟩⟩
    obtain ⟨w, worker, early'⟩ := Machine.early_of_work here early
    exact (h.joins w worker early').2
  | stray i =>
    simp only [System.act]
    split
    · exact h
    · exact ⟨h.cleared, h.joins⟩
  | call call =>
    cases stage : s.stage with
    | idle =>
      simp only [System.act, stage]
      refine ⟨rfl, fun w worker early => ?_⟩
      obtain ⟨-, _, joining⟩ := h.joins w worker early
      cases stage.symm.trans joining
    | _ =>
      simp only [System.act, stage]
      exact h
  | proceed =>
    by_cases early : ∃ w, s.machine.worker = some w ∧ w.phase.isPast = false
    · obtain ⟨w, worker, early⟩ := early
      have joins := h.joins w worker early
      exact (joins.act (Phase.isBusy_of_isPast early) (by simp)).waits
    · have cleared := h.cleared
      have proceeds := s.proceeds
      rw [System.act] at high ⊢
      generalize s.proceed = r at proceeds high ⊢
      cases proceeds with
      | asks call w stage _ worker => exact ⟨rfl, fun w worker _ => ⟨worker, call, rfl⟩⟩
      | clears => cases high
      | announces _ _ stage | starts _ _ stage =>
        rw [stage] at cleared
        cases cleared
      | other t _ _ worker aside =>
        refine ⟨Stage.isCleared_of_isAside aside, fun w here early' => ?_⟩
        rcases worker with same | gone
        · exact absurd ⟨w, same.symm.trans here, early'⟩ early
        · cases gone.symm.trans here

end System
end Backplane
