import Mathlib
import Backplane.Proofs.Run.Halting

/-!
# Who asks for a stop

What each act of a system does about a stop request. An act may ask for a stop itself, through a
handle or by an instruction of the worker (`System.requests`). Among the others only `pause` and
`halt` raise a request, for the worker that they find (`act_raises`). Before the controller starts
a run it takes back any request, and there is none from then on (`Cleared`), unless `pause` or
`halt` is called anew (`Unasked`).
-/

namespace Backplane

variable {π σ : Type}

/-- The controller has taken back any stop request, and is about to start a run. -/
def Stage.isCleared : Stage π → Bool
  | announcing _ _ | starting _ _ => true
  | idle | entered _ | joining _ | asking _ | clearing _ _ | halting | resetting
  | releasing => false

/-- The controller is neither at the begin of a call nor, with any stop request taken back, about
to start a run. -/
def Stage.isAside : Stage π → Bool
  | idle | joining _ | asking _ | clearing _ _ | halting | resetting | releasing => true
  | entered _ | announcing _ _ | starting _ _ => false

theorem Stage.isCleared_of_isAside {stage : Stage π} (aside : stage.isAside = true) :
    stage.isCleared = false := by
  cases stage with
  | idle | joining | asking | clearing | halting | resetting | releasing => rfl
  | entered | announcing | starting => cases aside

namespace Machine

variable {m : Machine π σ}

@[simp] theorem join_stop (m : Machine π σ) : m.join.1.control.stop = m.control.stop := by
  unfold join
  split
  · rfl
  · split <;> rfl

/-- Taking over changes the worker only by taking its place. -/
theorem join_worker (m : Machine π σ) :
    m.join.1.worker = m.worker ∨ m.join.1.worker = none := by
  unfold join
  split
  · exact .inl rfl
  · split
    · exact .inr rfl
    · exact .inr rfl
    all_goals exact .inl rfl

variable [Processor π σ]

/-- Whether the worker's next step is an instruction that asks for a stop. -/
def requests (m : Machine π σ) (engaged : Bool) : Bool :=
  match m.worker with
  | none => false
  | some w =>
    match w.phase with
    | .looping => engaged && !m.poisoned && (Processor.step w.processor m.bus).stop
    | .starting | .clearing _ | .publishing _ | .finished _ | .crashed => false

/-- A step of the worker that does not ask for a stop raises no request. -/
theorem stop_of_work {engaged : Bool} (own : m.requests engaged = false)
    (h : (m.work engaged).1.control.stop = true) : m.control.stop = true := by
  unfold work at h
  unfold requests at own
  split at h
  · exact h
  · rename_i w worker
    rw [worker] at own
    cases phase : w.phase with
    | looping =>
      simp only [phase] at h own
      split at h
      · rename_i engaged
        unfold execute at h
        split at h
        · exact h
        · rename_i clean
          rw [engaged, eq_false_of_ne_true clean, Bool.not_false, Bool.true_and,
            Bool.true_and] at own
          dsimp only at h
          rw [own, Bool.or_false] at h
          split at h
          all_goals exact h
      · split at h
        all_goals exact h
    | clearing reason =>
      simp only [phase, advance, worker] at h
      cases h
    | starting | publishing | finished | crashed =>
      simp only [phase, advance, worker] at h
      exact h

end Machine

namespace System

variable {s : System π σ}

/-- What the controller may do in one step. -/
inductive Proceeds (s : System π σ) : System π σ × Option RunEvent → Prop where
  /-- It asks the worker to stop, and is going to wait for it. -/
  | asks (call : Call) (w : Worker π) (stage : s.stage = .entered call)
      (stops : call = .pause ∨ call = .halt) (worker : s.machine.worker = some w) :
    Proceeds s ({ s with machine := s.machine.requestStop, stage := .joining call }, none)
  /-- It takes back any stop request, to start a run. -/
  | clears (limit : Option UInt64) (p : π) (stage : s.stage = .clearing limit p) :
    Proceeds s
      ({ s with
          machine := { s.machine with control := { s.machine.control with stop := false } }
          stage := .announcing limit p }, none)
  /-- It tells that the machine runs. -/
  | announces (limit : Option UInt64) (p : π) (stage : s.stage = .announcing limit p) :
    Proceeds s
      ({ s with
          machine := { s.machine with control := { s.machine.control with state := .running } }
          stage := .starting limit p }, none)
  /-- It starts a worker. -/
  | starts (limit : Option UInt64) (p : π) (stage : s.stage = .starting limit p) :
    Proceeds s (s.launch s.machine limit p)
  /-- Whatever else it does, it neither raises a request nor goes on to start a run. -/
  | other (t : System π σ) (event : Option RunEvent)
      (stop : t.machine.control.stop = true → s.machine.control.stop = true)
      (worker : t.machine.worker = s.machine.worker ∨ t.machine.worker = none)
      (aside : t.stage.isAside = true) (unstarted : event.any RunEvent.launches = false) :
    Proceeds s (t, event)

/-- The call goes on, or returns, without a change of the request. -/
theorem Proceeds.still {t : System π σ} {event : Option RunEvent}
    (stop : t.machine.control.stop = s.machine.control.stop)
    (worker : t.machine.worker = s.machine.worker ∨ t.machine.worker = none)
    (aside : t.stage.isAside = true) (unstarted : event.any RunEvent.launches = false) :
    s.Proceeds (t, event) :=
  .other t event (fun high => stop ▸ high) worker aside unstarted

theorem proceeds (s : System π σ) : s.Proceeds s.proceed := by
  obtain ⟨m, strays, engaged, stage⟩ := s
  cases stage with
  | idle => exact .still rfl (.inl rfl) rfl rfl
  | entered call =>
    cases call with
    | pause | halt =>
      cases worker : m.worker with
      | none =>
        have same : m.stopping = m := by rw [Machine.stopping, worker]; rfl
        simp only [System.proceed, enter, same]
        exact .still rfl (.inl rfl) rfl rfl
      | some w =>
        have asked : m.stopping = m.requestStop := by rw [Machine.stopping, worker]; rfl
        simp only [System.proceed, enter, asked]
        exact .asks _ w rfl (by simp) worker
    | wait => exact .still rfl (.inl rfl) rfl rfl
    | spawn limit | resetHalt =>
      simp only [System.proceed, enter]
      split
      all_goals exact .still rfl (.inl rfl) rfl rfl
  | joining call =>
    simp only [System.proceed, System.join]
    split
    · exact .still rfl (.inl rfl) rfl rfl
    · have same := m.join_stop
      have worker := m.join_worker
      generalize m.join = joined at same worker
      obtain ⟨m', e | outcome⟩ := joined
      all_goals
        cases call
        all_goals exact .still same worker rfl rfl
  | asking limit =>
    simp only [System.proceed, ask]
    repeat' split
    all_goals exact .still rfl (.inl rfl) rfl rfl
  | clearing limit p => exact .clears limit p rfl
  | announcing limit p => exact .announces limit p rfl
  | starting limit p => exact .starts limit p rfl
  | halting | releasing => exact .still rfl (.inl rfl) rfl rfl
  | resetting => exact .other _ _ (fun high => absurd high Bool.false_ne_true) (.inl rfl) rfl rfl

variable [Processor π σ]

/-- Whether the act requests a stop itself: through a handle, or by an instruction. -/
def requests (s : System π σ) : Act σ → Bool
  | .requestStop => true
  | .work => s.machine.requests s.engaged
  | .stray i =>
    s.strays[i]?.any fun t => { s.machine with worker := some t.worker }.requests t.engaged
  | .call _ | .proceed | .useBus _ => false

/-- Where no act requests a stop itself, a request is raised by a call only. -/
theorem act_raises {a : Act σ} (own : s.requests a = false)
    (low : s.machine.control.stop = false) (high : (s.act a).1.machine.control.stop = true) :
    a = .proceed ∧ (s.stage = .entered .pause ∨ s.stage = .entered .halt) ∧
      ∃ w call, s.machine.worker = some w ∧ (s.act a).1.machine.worker = some w ∧
        (s.act a).1.stage = .joining call := by
  have still : s.machine.control.stop ≠ true := ne_true_of_eq_false low
  cases a with
  | proceed =>
    refine ⟨rfl, ?_⟩
    have proceeds := s.proceeds
    rw [System.act] at high ⊢
    generalize s.proceed = r at proceeds high ⊢
    cases proceeds with
    | asks call w stage stops worker =>
      refine ⟨?_, w, call, worker, worker, rfl⟩
      rcases stops with rfl | rfl
      · exact .inl stage
      · exact .inr stage
    | clears => cases high
    | announces | starts => exact absurd high still
    | other _ _ stop => exact absurd (stop high) still
  | requestStop => cases own
  | work => exact absurd (Machine.stop_of_work own high) still
  | stray i =>
    simp only [System.act] at high
    split at high
    · exact absurd high still
    · rename_i t found
      rw [requests, found, Option.any_some] at own
      exact absurd (Machine.stop_of_work own high) still
  | call call =>
    simp only [System.act] at high
    split at high
    all_goals exact absurd high still
  | useBus use =>
    rw [System.act, Machine.withBus_control] at high
    exact absurd high still

/-! ## Starts -/

/-- Where the controller has taken back any stop request, there is none. -/
def Cleared (s : System π σ) : Prop := s.stage.isCleared = true → s.machine.control.stop = false

theorem Cleared.act (h : s.Cleared) {a : Act σ} (own : s.requests a = false) :
    (s.act a).1.Cleared := by
  intro cleared
  -- Another party leaves the controller where it is, and raises no request.
  have aside (other : a ≠ .proceed) (before : s.stage.isCleared = true) :
      (s.act a).1.machine.control.stop = false :=
    eq_false_of_ne_true fun high => other (act_raises own (h before) high).1
  cases a with
  | proceed =>
    have proceeds := s.proceeds
    rw [System.act] at cleared ⊢
    generalize s.proceed = r at proceeds cleared ⊢
    cases proceeds with
    | asks | starts => cases cleared
    | clears => rfl
    | announces limit p stage => exact h (by rw [stage]; rfl)
    | other _ _ _ _ aside => cases (Stage.isCleared_of_isAside aside).symm.trans cleared
  | requestStop => cases own
  | call call =>
    cases stage : s.stage with
    | idle =>
      simp only [System.act, stage] at cleared
      cases cleared
    | _ =>
      simp only [System.act, stage] at cleared
      exact aside (by simp) (by rw [stage]; exact cleared)
  | work | useBus => exact aside (by simp) cleared
  | stray i =>
    refine aside (by simp) ?_
    simp only [System.act] at cleared
    split at cleared
    all_goals exact cleared

/-- No stop is requested, nor about to be. -/
structure Unasked (s : System π σ) : Prop where
  stop : s.machine.control.stop = false
  stage : ∀ call, s.stage = .entered call → call ≠ .pause ∧ call ≠ .halt

theorem Unasked.act (h : s.Unasked) {a : Act σ} (own : s.requests a = false)
    (silent : a ≠ .call .pause ∧ a ≠ .call .halt) : (s.act a).1.Unasked where
  stop := by
    refine eq_false_of_ne_true fun high => ?_
    obtain ⟨-, entered | entered, -⟩ := act_raises own h.stop high
    · exact (h.stage _ entered).1 rfl
    · exact (h.stage _ entered).2 rfl
  stage := by
    intro call entered
    cases a with
    | proceed =>
      have proceeds := s.proceeds
      rw [System.act] at entered
      generalize s.proceed = r at proceeds entered
      cases proceeds with
      | asks | clears | announces | starts => cases entered
      | other _ _ _ _ aside =>
        rw [entered] at aside
        cases aside
    | requestStop => cases own
    | call other =>
      cases stage : s.stage with
      | idle =>
        simp only [System.act, stage] at entered
        cases entered
        exact ⟨fun asks => silent.1 (asks ▸ rfl), fun asks => silent.2 (asks ▸ rfl)⟩
      | _ =>
        simp only [System.act, stage] at entered
        exact h.stage call (stage.trans entered)
    | work | useBus => exact h.stage call entered
    | stray i =>
      simp only [System.act] at entered
      split at entered
      all_goals exact h.stage call entered

omit [Processor π σ] in
/-- When a run has been started, nobody has asked it to stop. -/
theorem Cleared.unasked (h : s.Cleared) {limit : Option UInt64}
    (started : s.proceed.2 = some (.returned (.spawn limit) true)) : s.proceed.1.Unasked := by
  have proceeds := s.proceeds
  generalize s.proceed = r at proceeds started ⊢
  cases proceeds with
  | asks | clears | announces => cases started
  | starts limit p stage => exact ⟨h (by rw [stage]; rfl), fun _ entered => by cases entered⟩
  | other _ _ _ _ _ unstarted =>
    dsimp only at started
    rw [started] at unstarted
    cases unstarted

end System
end Backplane
