import Mathlib
import Backplane.Proofs.Bus.Operations
import Backplane.Proofs.Run.Whereabouts

/-!
# Halts and stop requests

However the calls of the controller, the instructions of the worker and stop requests are
interleaved, the processor is in one place, a halt holds until it is reset, and a run that is
asked to stop completes at most the instruction in progress.

The first of these is what a coherent system is. Nobody but the controller clears a halt, so that
from one on the system stays `Barred`; and as the stop request of a run is taken back by the end
of that run only, a worker that is to stop `Heeds` it.

The main statement is `halt_final_until_reset`.
-/

namespace Backplane

variable {π σ : Type}

namespace RunEvent

/-- The machine has halted: `halt` has returned, or a run has come to a halt or a fault. -/
def halts : RunEvent → Bool
  | returned .halt _ | executed .halted | executed (.fault _) | ended .halted
  | ended (.fault _) => true
  | _ => false

/-- A halt may have been cleared. -/
def resets : RunEvent → Bool
  | returned .resetHalt _ => true
  | _ => false

/-- A run has been started. -/
def launches : RunEvent → Bool
  | returned (.spawn _) ok => ok
  | _ => false

/-- An instruction has been executed. -/
def isExecuted : RunEvent → Bool
  | executed _ => true
  | _ => false

end RunEvent

namespace System

variable {s : System π σ} [Processor π σ]

omit [Processor π σ] in
/-- The controller executes no instruction. -/
theorem isExecuted_proceed {e : RunEvent} (h : s.proceed.2 = some e) : e.isExecuted = false := by
  revert h
  unfold System.proceed
  split
  all_goals simp only [enter, System.join, ask, goto, answer, launch]
  all_goals repeat' split
  all_goals
    intro h
    cases h
  all_goals rfl

/-! ## Stop requests -/

/-- The worker does not go on to another instruction. -/
def Heeds (s : System π σ) : Prop :=
  ∀ w, s.machine.worker = some w → w.phase = .starting ∨ w.phase = .looping →
    s.machine.control.stop = true

/-- The instructions executed among the events. -/
def executions (events : List RunEvent) : Nat := events.countP RunEvent.isExecuted

omit [Processor π σ] in
theorem isBusy_of_phase {m : Machine π σ} {w : Worker π} (worker : m.worker = some w)
    (phase : w.phase = .starting ∨ w.phase = .looping) : m.isBusy = true := by
  rw [Machine.isBusy_of_worker worker]
  rcases phase with phase | phase
  · rw [phase]
    rfl
  · rw [phase]
    rfl

omit [Processor π σ] in
theorem Heeds.spares {t : System π σ} (h : s.Heeds) (spares : s.Spares t) : t.Heeds := by
  intro w worker phase
  rcases spares.worker with same | ⟨_, gone⟩
  · rw [same] at worker
    exact spares.stop (isBusy_of_phase worker phase) (h w worker phase)
  · cases gone.symm.trans worker

/-- The worker executes an instruction only if its checks let that pass before. -/
theorem Heeds.work (steady : Processor.Steady π σ) (h : s.Heeds) (coherent : s.Coherent) :
    (s.act .work).1.Heeds ∧
      executions (s.act .work).2.toList + (s.act .work).1.engaged.toNat ≤ s.engaged.toNat := by
  cases coherent with
  | kept _ worker | held _ worker =>
    simp only [System.act, Machine.work, worker]
    exact ⟨h, Nat.le_refl _⟩
  | @working m w engaged stage _ worker unspoiled sound =>
    have works := m.works steady worker unspoiled sound engaged
    have stop := h w worker
    simp only [System.act]
    generalize m.work engaged = r at works ⊢
    cases works with
    | begins phase =>
      exact ⟨fun w' _ _ => stop (.inl phase), Nat.zero_le _⟩
    | passes phase unasked => cases unasked.symm.trans (stop (.inr phase))
    | leaves phase reason | clears reason phase | publishes reason phase =>
      refine ⟨?_, Nat.zero_le _⟩
      rintro w' ⟨⟩ (⟨⟨⟩⟩ | ⟨⟨⟩⟩)
    | retires phase bus asked cycles w' phase' =>
      exact ⟨fun _ _ _ => (Bool.or_eq_true _ _).mpr (.inl (stop (.inr phase))), Nat.le_refl _⟩
    | stops phase bus asked outcome w' reason =>
      refine ⟨?_, Nat.le_refl _⟩
      rintro w' ⟨⟩ (⟨⟨⟩⟩ | ⟨⟨⟩⟩)
    | rests reason phase => exact ⟨h, Nat.zero_le _⟩

omit [Processor π σ] in
/-- A start is told. -/
theorem launches_proceed {limit : Option UInt64} {p : π} (h : s.stage = .starting limit p) :
    s.proceed.2 = some (.returned (.spawn limit) true) := by
  unfold System.proceed
  rw [h]
  rfl

omit [Processor π σ] in
theorem executions_eq_zero {event : Option RunEvent}
    (h : ∀ e, event = some e → e.isExecuted = false) : executions event.toList = 0 := by
  refine List.countP_eq_zero.mpr fun e mem => ?_
  rw [h e (Option.mem_toList.mp mem)]
  exact Bool.false_ne_true

/-- A stop request is heeded until the next start, and bounds what is executed till then. -/
theorem Heeds.act (steady : Processor.Steady π σ) (h : s.Heeds) (coherent : s.Coherent)
    (a : Act σ) (unstarted : ∀ e, (s.act a).2 = some e → e.launches = false) :
    (s.act a).1.Heeds ∧
      executions (s.act a).2.toList + (s.act a).1.engaged.toNat ≤ s.engaged.toNat := by
  have idle {t : System π σ} {event : Option RunEvent} (spares : s.Spares t)
      (none_executed : ∀ e, event = some e → e.isExecuted = false) :
      t.Heeds ∧ executions event.toList + t.engaged.toNat ≤ s.engaged.toNat := by
    refine ⟨h.spares spares, ?_⟩
    rw [executions_eq_zero none_executed, spares.engaged, Nat.zero_add]
  by_cases work : a = .work
  · subst work
    exact h.work steady coherent
  · by_cases proceed : a = .proceed
    · subst proceed
      have apart : ∀ limit p, s.stage ≠ .starting limit p :=
        fun limit p here => nomatch unstarted _ (launches_proceed here)
      exact idle (coherent.spares apart) fun e => isExecuted_proceed
    · obtain ⟨silent, spares, -⟩ := coherent.aside ⟨work, proceed⟩
      exact idle spares fun e here => nomatch silent.symm.trans here

/-- Until the next start, a system that heeds a stop request executes at most the instruction
in progress. -/
theorem Heeds.run (steady : Processor.Steady π σ) (h : s.Heeds) (coherent : s.Coherent)
    {acts : List (Act σ)} (unstarted : ∀ e ∈ s.events acts, e.launches = false) :
    executions (s.events acts) ≤ s.engaged.toNat := by
  induction acts generalizing s with
  | nil => exact Nat.zero_le _
  | cons a acts ih =>
    rw [events] at unstarted ⊢
    obtain ⟨heeds, first⟩ := h.act steady coherent a fun e eq =>
      unstarted e (List.mem_append_left _ (Option.mem_toList.mpr eq))
    have rest := ih heeds (coherent.act steady a) fun e mem =>
      unstarted e (List.mem_append_right _ mem)
    rw [executions, List.countP_append]
    exact (Nat.add_le_add_left rest _).trans first

/-! ## Halts -/

/-- No instruction is executed unless a halt is cleared first. -/
inductive Barred (s : System π σ) : Prop where
  /-- The run is ending with a halt or a fault. -/
  | ending (w : Worker π) (reason : StopReason) (worker : s.machine.worker = some w)
      (phase : w.phase = .clearing reason ∨ w.phase = .publishing reason)
      (halts : reason.state = .halted)
  /-- The machine has halted. -/
  | halted (state : s.machine.control.state = .halted) (ended : s.machine.isBusy = false)
      (empty : s.stage.hand? = none)

omit [Processor π σ] in
/-- A run that is ending is in its run still. -/
theorem isBusy_of_ending {m : Machine π σ} {w : Worker π} {reason : StopReason}
    (worker : m.worker = some w)
    (phase : w.phase = .clearing reason ∨ w.phase = .publishing reason) :
    m.isBusy = true := by
  rw [Machine.isBusy_of_worker worker]
  rcases phase with phase | phase
  · rw [phase]
    rfl
  · rw [phase]
    rfl

theorem Barred.work (h : s.Barred) (coherent : s.Coherent) :
    (s.act .work).1.Barred ∧ executions (s.act .work).2.toList = 0 := by
  cases h with
  | ending w reason worker phase halts =>
    rcases phase with phase | phase
    · simp only [System.act, Machine.work, worker, phase, Machine.advance]
      exact ⟨.ending _ reason rfl (.inr rfl) halts, rfl⟩
    · have plain := coherent.plain (isBusy_of_ending worker (.inr phase))
      simp only [System.act, Machine.work, worker, phase, Machine.advance]
      exact ⟨.halted halts rfl (Stage.hand?_of_isPlain plain), rfl⟩
  | halted state ended empty =>
    cases worker : s.machine.worker with
    | none =>
      simp only [System.act, Machine.work, worker]
      exact ⟨.halted state ended empty, rfl⟩
    | some w =>
      have past := ended
      rw [Machine.isBusy_of_worker worker] at past
      cases phase : w.phase with
      | finished reason | crashed =>
        simp only [System.act, Machine.work, worker, phase, Machine.advance]
        exact ⟨.halted state ended empty, rfl⟩
      | starting | looping | clearing | publishing =>
        rw [phase] at past
        cases past

omit [Processor π σ] in
theorem Barred.proceed (h : s.Barred) (coherent : s.Coherent)
    (uncleared : ∀ e, s.proceed.2 = some e → e.resets = false) : s.proceed.1.Barred := by
  cases h with
  | ending w reason worker phase halts =>
    have busy := isBusy_of_ending worker phase
    have plain := coherent.plain busy
    have apart : ∀ limit p, s.stage ≠ .starting limit p := by
      intro limit p here
      rw [here] at plain
      cases plain
    rcases (coherent.spares apart).worker with same | ⟨ended, _⟩
    · exact .ending w reason (same.trans worker) phase halts
    · cases busy.symm.trans ended
  | halted state ended empty =>
    clear coherent
    obtain ⟨m, strays, engaged, stage⟩ := s
    have moves {next : Stage π} (free : next.hand? = none) :
        Barred ⟨m, strays, engaged, next⟩ := .halted state ended free
    cases stage with
    | idle => exact moves rfl
    | entered call =>
      cases call with
      | spawn limit =>
        simp only [System.proceed, enter]
        split
        · exact moves rfl
        · exact moves rfl
      | wait => exact moves rfl
      | pause | halt =>
        exact .halted (m.stopping_state.trans state) (m.stopping_isBusy.trans ended) rfl
      | resetHalt =>
        simp only [System.proceed, enter, if_pos state]
        exact moves rfl
    | joining call =>
      obtain ⟨next, free, joined⟩ := join_fst ⟨m, strays, engaged, .joining call⟩ call ended
      change (System.join _ m call).1.Barred
      rw [joined]
      exact .halted (Machine.halted_join state)
        (Machine.isBusy_of_absent (Machine.worker_join ended)) free
    | asking limit =>
      simp only [System.proceed, ask, if_pos state]
      exact moves rfl
    | clearing | announcing | starting => cases empty
    | halting => exact .halted rfl ended rfl
    | resetting => exact .halted state ended rfl
    | releasing => cases uncleared _ rfl

/-- A halt bars the machine from further instructions until it is cleared. -/
theorem Barred.act (h : s.Barred) (coherent : s.Coherent) (a : Act σ)
    (uncleared : ∀ e, (s.act a).2 = some e → e.resets = false) :
    (s.act a).1.Barred ∧ executions (s.act a).2.toList = 0 := by
  by_cases work : a = .work
  · subst work
    exact h.work coherent
  · by_cases proceed : a = .proceed
    · subst proceed
      exact ⟨h.proceed coherent uncleared, executions_eq_zero fun e => isExecuted_proceed⟩
    · obtain ⟨silent, spares, state, worker, hand⟩ := coherent.aside ⟨work, proceed⟩
      refine ⟨?_, executions_eq_zero fun e here => nomatch silent.symm.trans here⟩
      cases h with
      | ending w reason here phase halts =>
        exact .ending w reason (worker.trans here) phase halts
      | halted stands ended empty =>
        exact .halted (state.trans stands) ((Machine.isBusy_congr worker).trans ended)
          (hand.trans empty)

theorem Barred.run (steady : Processor.Steady π σ) (h : s.Barred) (coherent : s.Coherent)
    {acts : List (Act σ)} (uncleared : ∀ e ∈ s.events acts, e.resets = false) :
    executions (s.events acts) = 0 := by
  induction acts generalizing s with
  | nil => rfl
  | cons a acts ih =>
    rw [events] at uncleared ⊢
    obtain ⟨barred, first⟩ := h.act coherent a fun e eq =>
      uncleared e (List.mem_append_left _ (Option.mem_toList.mpr eq))
    have rest := ih barred (coherent.act steady a) fun e mem =>
      uncleared e (List.mem_append_right _ mem)
    rw [executions, List.countP_append]
    exact (congrArg₂ (· + ·) first rest).trans (Nat.add_zero 0)

omit [Processor π σ] in
/-- The controller tells of a halt only at the end of `halt`. -/
theorem Coherent.stage_of_halts (h : s.Coherent) {e : RunEvent} (told : s.proceed.2 = some e)
    (halts : e.halts = true) : s.stage = .halting := by
  have sound := h.join_ok
  clear h
  obtain ⟨m, strays, engaged, stage⟩ := s
  unfold System.proceed at told
  cases stage with
  | halting => rfl
  | idle | clearing | announcing | resetting => cases told
  | starting | releasing =>
    cases told
    cases halts
  | entered call =>
    cases call with
    | wait | pause | halt => cases told
    | spawn limit =>
      simp only [enter] at told
      split at told
      · cases told
      · cases told
    | resetHalt =>
      simp only [enter] at told
      split at told
      · cases told
      · cases told
        cases halts
  | asking limit =>
    simp only [ask] at told
    repeat' split at told
    all_goals cases told
    all_goals cases halts
  | joining call =>
    simp only [System.join] at told
    split at told
    · cases told
    · rename_i past
      obtain ⟨m', outcome, join⟩ := sound (eq_false_of_ne_true past)
      rw [join] at told
      cases call with
      | spawn | halt => cases told
      | wait | pause | resetHalt =>
        cases told
        cases halts

/-- What tells of a halt bars the machine. -/
theorem Coherent.barred (steady : Processor.Steady π σ) (h : s.Coherent) {a : Act σ} {e : RunEvent}
    (told : (s.act a).2 = some e) (halts : e.halts = true) : (s.act a).1.Barred := by
  by_cases work : a = .work
  · subst work
    have plain := h.plain
    cases h with
    | kept _ worker | held _ worker =>
      simp only [System.act, Machine.work, worker] at told
      cases told
    | @working m w engaged stage _ worker unspoiled sound =>
      have works := m.works steady worker unspoiled sound engaged
      have isBusy := Machine.isBusy_of_worker worker
      simp only [System.act] at told ⊢
      generalize m.work engaged = r at works told ⊢
      cases works with
      | begins | passes | leaves | clears | rests => cases told
      | retires phase bus stop cycles w' phase' =>
        cases told
        cases halts
      | stops phase bus stop outcome w' reason ends =>
        exact .ending _ reason rfl (.inl rfl) ends
      | publishes reason phase =>
        rw [phase] at isBusy
        refine .halted ?_ rfl (Stage.hand?_of_isPlain (plain isBusy))
        cases told
        cases reason with
        | halted | fault => rfl
        | stopRequested | limitReached => cases halts
  · by_cases proceed : a = .proceed
    · subst proceed
      have here := h.stage_of_halts told halts
      cases h with
      | kept _ worker =>
        cases here
        exact .halted rfl (Machine.isBusy_of_absent worker) rfl
      | held _ _ _ hand =>
        cases here
        cases hand
      | working _ _ _ _ _ place =>
        cases here
        rcases place with ⟨⟨⟩⟩ | ⟨⟨⟩, _⟩
    · cases (h.aside ⟨work, proceed⟩).1.symm.trans told

/-! ## Runs -/

/-- An event of a schedule is told by one of its acts. -/
theorem exists_act_of_events {acts : List (Act σ)} {before after : List RunEvent} {e : RunEvent}
    (h : s.events acts = before ++ e :: after) :
    ∃ first a rest, acts = first ++ a :: rest ∧ ((s.run first).act a).2 = some e ∧
      ((s.run first).act a).1.events rest = after := by
  induction acts generalizing s before with
  | nil => cases before <;> cases h
  | cons a acts ih =>
    rw [events] at h
    cases told : (s.act a).2 with
    | none =>
      rw [told] at h
      obtain ⟨first, b, rest, rfl, tells, last⟩ := ih h
      exact ⟨a :: first, b, rest, rfl, tells, last⟩
    | some x =>
      rw [told] at h
      cases before with
      | nil =>
        cases h
        exact ⟨[], a, acts, rfl, told, rfl⟩
      | cons y before =>
        obtain ⟨-, later⟩ := List.cons.inj h
        obtain ⟨first, b, rest, rfl, tells, last⟩ := ih later
        exact ⟨a :: first, b, rest, rfl, tells, last⟩

/-- However calls of the controller, steps of the worker and stop requests are interleaved:
once the machine has halted, no instruction is executed before the halt is reset; the
processor is either the machine's or the one worker's; and a stop that is requested lets at
most the instruction in progress complete until a run is started anew. -/
theorem halt_final_until_reset (steady : Processor.Steady π σ) (bus : Bus σ) (devices : Registry)
    (processor : π) (acts : List (Act σ)) :
    let s := (new bus devices processor).run acts
    (∀ before e after, (new bus devices processor).events acts = before ++ e :: after →
      e.halts = true → (∀ x ∈ after, x.resets = false) → ∀ x ∈ after, x.isExecuted = false) ∧
    (s.owned.length = 1 ∧ s.workers = [] ∨ s.owned = [] ∧ s.workers.length = 1) ∧
    ∀ later, (∀ x ∈ (s.act .requestStop).1.events later, x.launches = false) →
      ((s.act .requestStop).1.events later).countP RunEvent.isExecuted ≤
        if s.engaged then 1 else 0 := by
  intro s
  have coherent (acts : List (Act σ)) : ((new bus devices processor).run acts).Coherent :=
    (coherent_new bus devices processor).run steady acts
  refine ⟨?_, (coherent acts).owner, ?_⟩
  · intro before e after split halts uncleared x mem
    obtain ⟨first, a, rest, rfl, told, rfl⟩ := exists_act_of_events split
    have barred := (coherent first).barred steady told halts
    have none_executed := barred.run steady ((coherent first).act steady a) uncleared
    exact eq_false_of_ne_true (List.countP_eq_zero.mp none_executed x mem)
  · intro later unstarted
    have heeds : (s.act .requestStop).1.Heeds := fun _ _ _ => rfl
    have bound := heeds.run steady ((coherent acts).act steady .requestStop) unstarted
    refine bound.trans ?_
    change s.engaged.toNat ≤ _
    cases s.engaged with
    | false => exact Nat.le_refl _
    | true => exact Nat.le_refl _

end System

/-- A processor that executes a number of instructions and then halts. -/
structure Countdown where
  /-- The number of instructions before it halts. -/
  left : Nat

namespace Countdown

instance : Processor Countdown σ where
  step p b :=
    match p.left with
    | 0 => ⟨p, b, false, .halted⟩
    | left + 1 => ⟨⟨left⟩, b, false, .retired 1⟩

theorem steady : Processor.Steady Countdown σ := by
  rintro ⟨_ | left⟩ b
  · nofun
  · nofun

/-- A run is asked to stop while its first instruction is in progress, which is the last one
then; without the request it comes to its halt, and cannot be started again. -/
theorem halt_final_until_reset_countdown :
    let s : System Countdown Unit := .new (.empty smallSpace) {} ⟨1⟩
    let start := .call (.spawn none) :: List.replicate 5 .proceed ++ [.work, .work]
    let rest := List.replicate 5 .work ++ .call (.spawn none) :: List.replicate 3 .proceed
    Processor.Steady Countdown Unit ∧
      s.events (start ++ rest) = [.returned (.spawn none) true, .executed (.retired 1),
        .executed .halted, .ended .halted, .returned (.spawn none) false] ∧
      (∀ x ∈ [RunEvent.ended .halted, .returned (.spawn none) false], x.isExecuted = false) ∧
      (((s.run start).act .requestStop).1.events rest).countP RunEvent.isExecuted ≤ 1 := by
  intro s start rest
  have told : s.events (start ++ rest) = [.returned (.spawn none) true, .executed (.retired 1)] ++
      .executed .halted :: [.ended .halted, .returned (.spawn none) false] := by decide_cbv
  obtain ⟨final, -, -⟩ :=
    System.halt_final_until_reset steady (.empty smallSpace) {} (⟨1⟩ : Countdown) (start ++ rest)
  obtain ⟨-, -, stops⟩ :=
    System.halt_final_until_reset steady (.empty smallSpace) {} (⟨1⟩ : Countdown) start
  have after : ((s.run start).act .requestStop).1.events rest =
      [.executed (.retired 1), .ended .stopRequested] := by decide_cbv
  have engaged : (s.run start).engaged = true := by decide_cbv
  have bound := stops rest (by rw [after]; decide)
  rw [if_pos engaged] at bound
  exact ⟨steady, told, final _ _ _ told rfl (by decide), bound⟩

end Countdown
end Backplane
