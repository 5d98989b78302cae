import Mathlib
import Backplane.Proofs.Run.Workers

/-!
# The whereabouts of the processor

However the calls of the controller and the steps of the worker are interleaved, the processor
is in one place: it is in the machine's hands, in those of the controller, or with the one
worker, and as long as that worker is in its run the shared state says so (`Coherent`). Every
act keeps this, so long as no instruction breaks its processor down (`Coherent.act`), and there
are no workers that the controller no longer knows of (`Coherent.strays`).

But for a start, the controller spares a worker that is in its run, and so do the other parties
(`Coherent.spares`, `Coherent.aside`).
-/

namespace Backplane

variable {π σ : Type}

/-! ## Stages -/

/-- The controller has no processor at hand, nor is it about to change the state. -/
def Stage.isPlain : Stage π → Bool
  | idle | entered _ | joining _ | asking _ => true
  | clearing _ _ | announcing _ _ | starting _ _ | halting | resetting | releasing => false

theorem Stage.hand?_of_isPlain {stage : Stage π} (plain : stage.isPlain = true) :
    stage.hand? = none := by
  cases stage with
  | idle | entered | joining | asking => rfl
  | clearing | announcing | starting | halting | resetting | releasing => cases plain

/-- The controller has seen a halt that it is about to clear. -/
def Stage.isReset : Stage π → Bool
  | resetting | releasing => true
  | idle | entered _ | joining _ | asking _ | clearing _ _ | announcing _ _ | starting _ _
  | halting => false

namespace System

variable {s : System π σ}

/-- The processor is in one place, and while a worker is in its run, the state says so. -/
inductive Coherent : System π σ → Prop where
  /-- The machine has it. -/
  | kept {m : Machine π σ} {stage : Stage π} (processor : m.processor.isSome)
      (worker : m.worker = none) (unspoiled : m.poisoned = false) (empty : stage.hand? = none) :
      Coherent { machine := m, stage := stage }
  /-- The controller has it at hand. -/
  | held {m : Machine π σ} {stage : Stage π} (processor : m.processor = none)
      (worker : m.worker = none) (unspoiled : m.poisoned = false) (hand : stage.hand?.isSome)
      (told : ∀ limit p, stage = .starting limit p → m.control.state = .running) :
      Coherent { machine := m, stage := stage }
  /-- The worker has it. -/
  | working {m : Machine π σ} {w : Worker π} {engaged : Bool} {stage : Stage π}
      (processor : m.processor = none) (worker : m.worker = some w)
      (unspoiled : m.poisoned = false) (sound : w.phase ≠ .crashed)
      (running : m.isBusy = true → m.control.state = .running)
      (place : stage.isPlain = true ∨ stage.isReset = true ∧ m.isBusy = false)
      (looping : engaged = true → w.phase = .looping) :
      Coherent { machine := m, engaged := engaged, stage := stage }

theorem coherent_new (bus : Bus σ) (devices : Registry) (processor : π) :
    (new bus devices processor).Coherent :=
  .kept rfl rfl rfl rfl

theorem Coherent.strays (h : s.Coherent) : s.strays = [] := by
  cases h <;> rfl

/-- One place means one owner. -/
theorem Coherent.owner (h : s.Coherent) :
    s.owned.length = 1 ∧ s.workers = [] ∨ s.owned = [] ∧ s.workers.length = 1 := by
  unfold owned workers
  cases h with
  | kept processor worker _ empty =>
    obtain ⟨p, here⟩ := Option.isSome_iff_exists.mp processor
    exact .inl (by simp [here, worker, empty])
  | held processor worker _ hand _ =>
    obtain ⟨p, here⟩ := Option.isSome_iff_exists.mp hand
    exact .inl (by simp [here, worker, processor])
  | @working m w engaged stage processor worker _ _ _ place =>
    have empty : stage.hand? = none := by
      cases stage with
      | idle | entered | joining | asking | halting | resetting | releasing => rfl
      | clearing | announcing | starting => rcases place with ⟨⟨⟩⟩ | ⟨⟨⟩, _⟩
    exact .inr (by simp [worker, processor, empty])

/-- While a worker is in its run, the state says so. -/
theorem Coherent.running (h : s.Coherent) (busy : s.machine.isBusy = true) :
    s.machine.control.state = .running := by
  cases h with
  | kept _ worker | held _ worker =>
    rw [Machine.isBusy_of_absent worker] at busy
    cases busy
  | working _ _ _ _ running => exact running busy

/-- A worker in its run is met at plain stages only. -/
theorem Coherent.plain (h : s.Coherent) (busy : s.machine.isBusy = true) :
    s.stage.isPlain = true := by
  cases h with
  | kept _ worker | held _ worker =>
    rw [Machine.isBusy_of_absent worker] at busy
    cases busy
  | working _ _ _ _ _ place =>
    rcases place with plain | ⟨_, ended⟩
    · exact plain
    · cases busy.symm.trans ended

/-- A worker that has ended can be taken over from. -/
theorem Coherent.join_ok (h : s.Coherent) (ended : s.machine.isBusy = false) :
    ∃ m outcome, s.machine.join = (m, .ok outcome) := by
  cases h with
  | kept _ worker | held _ worker =>
    rw [Machine.join, worker]
    exact ⟨_, _, rfl⟩
  | working _ worker _ sound =>
    obtain ⟨outcome, join⟩ := Machine.join_of_ended worker ended sound
    exact ⟨_, _, join⟩

section Proceed

variable {m : Machine π σ} {w : Worker π} {stage : Stage π} {engaged : Bool}

/-- The controller goes on while the machine has the processor. -/
theorem coherent_proceed_kept (processor : m.processor.isSome) (worker : m.worker = none)
    (unspoiled : m.poisoned = false) (empty : stage.hand? = none) :
    Coherent (System.proceed { machine := m, stage := stage }).1 := by
  have idle := Machine.isBusy_of_absent worker
  have join : m.join = (m, .ok none) := by rw [Machine.join, worker]
  cases stage with
  | idle => exact .kept processor worker unspoiled rfl
  | entered call =>
    cases call with
    | spawn limit =>
      simp only [System.proceed, enter, worker, Option.isSome_none, Bool.false_and,
        if_neg Bool.false_ne_true]
      exact .kept processor worker unspoiled rfl
    | wait => exact .kept processor worker unspoiled rfl
    | pause | halt =>
      refine .kept ?_ ?_ ?_ rfl
      all_goals simpa
    | resetHalt =>
      simp only [System.proceed, enter]
      split
      · exact .kept processor worker unspoiled rfl
      · exact .kept processor worker unspoiled rfl
  | joining call =>
    simp only [System.proceed, System.join, idle, join, if_neg Bool.false_ne_true]
    cases call with
    | spawn | wait | pause | halt | resetHalt => exact .kept processor worker unspoiled rfl
  | asking limit =>
    obtain ⟨p, here⟩ := Option.isSome_iff_exists.mp processor
    simp only [System.proceed, ask, here]
    split
    · exact .kept processor worker unspoiled rfl
    · exact .held rfl worker unspoiled rfl (by simp)
  | clearing | announcing | starting => cases empty
  | halting | resetting | releasing => exact .kept processor worker unspoiled rfl

/-- The controller goes on with the processor at hand. -/
theorem coherent_proceed_held (processor : m.processor = none) (worker : m.worker = none)
    (unspoiled : m.poisoned = false) (hand : stage.hand?.isSome)
    (told : ∀ limit p, stage = .starting limit p → m.control.state = .running) :
    Coherent (System.proceed { machine := m, stage := stage }).1 := by
  cases stage with
  | clearing => exact .held processor worker unspoiled rfl (by simp)
  | announcing => exact .held processor worker unspoiled rfl fun _ _ _ => rfl
  | starting limit p =>
    have running := told limit p rfl
    simp only [System.proceed, launch, worker]
    exact .working processor rfl unspoiled (by simp) (fun _ => running) (.inl rfl) (by simp)
  | idle | entered | joining | asking | halting | resetting | releasing => cases hand

/-- The controller goes on while the worker has the processor. -/
theorem coherent_proceed_working (processor : m.processor = none) (worker : m.worker = some w)
    (unspoiled : m.poisoned = false) (sound : w.phase ≠ .crashed)
    (running : m.isBusy = true → m.control.state = .running)
    (place : stage.isPlain = true ∨ stage.isReset = true ∧ m.isBusy = false)
    (looping : engaged = true → w.phase = .looping) :
    Coherent (System.proceed { machine := m, engaged := engaged, stage := stage }).1 := by
  -- The worker stays what it is while the controller is at a plain stage.
  have moves {next : Stage π} (plain : next.isPlain = true) :
      Coherent { machine := m, engaged := engaged, stage := next } :=
    .working processor worker unspoiled sound running (.inl plain) looping
  cases stage with
  | idle => exact moves rfl
  | entered call =>
    cases call with
    | spawn limit =>
      simp only [System.proceed, enter]
      split
      · exact moves rfl
      · exact moves rfl
    | wait => exact moves rfl
    | pause | halt =>
      refine .working (w := w) ?_ ?_ ?_ sound ?_ (.inl rfl) looping
      all_goals simpa
    | resetHalt =>
      simp only [System.proceed, enter]
      split
      · rename_i halted
        have ended : m.isBusy = false := by
          refine eq_false_of_ne_true fun busy => ?_
          rw [running busy] at halted
          cases halted
        exact .working processor worker unspoiled sound running (.inr ⟨rfl, ended⟩) looping
      · exact moves rfl
  | joining call =>
    simp only [System.proceed, System.join]
    split
    · exact moves rfl
    · rename_i ended
      obtain ⟨outcome, join⟩ := Machine.join_of_ended worker (eq_false_of_ne_true ended) sound
      rw [join]
      have unengaged : engaged = false := by
        refine eq_false_of_ne_true fun on => ended ?_
        rw [Machine.isBusy_of_worker worker, looping on]
        rfl
      subst unengaged
      cases call with
      | spawn | wait | pause | halt | resetHalt => exact .kept rfl rfl unspoiled rfl
  | asking limit =>
    simp only [System.proceed, ask, processor]
    split
    · exact moves rfl
    · exact moves rfl
  | resetting =>
    rcases place with ⟨⟨⟩⟩ | ⟨_, ended⟩
    exact .working processor worker unspoiled sound running (.inr ⟨rfl, ended⟩) looping
  | releasing =>
    rcases place with ⟨⟨⟩⟩ | ⟨_, ended⟩
    refine .working processor worker unspoiled sound (fun busy => ?_) (.inl rfl) looping
    exact absurd busy (ne_true_of_eq_false ended)
  | clearing | announcing | starting | halting => rcases place with ⟨⟨⟩⟩ | ⟨⟨⟩, _⟩

end Proceed

theorem Coherent.proceed (h : s.Coherent) : s.proceed.1.Coherent := by
  cases h with
  | kept processor worker unspoiled empty =>
    exact coherent_proceed_kept processor worker unspoiled empty
  | held processor worker unspoiled hand told =>
    exact coherent_proceed_held processor worker unspoiled hand told
  | working processor worker unspoiled sound running place looping =>
    exact coherent_proceed_working processor worker unspoiled sound running place looping

variable [Processor π σ]

theorem Coherent.work (steady : Processor.Steady π σ) (h : s.Coherent) :
    (s.act .work).1.Coherent := by
  have plain := h.plain
  cases h with
  | @kept m stage processor worker unspoiled empty =>
    simp only [System.act, Machine.work, worker]
    exact .kept processor worker unspoiled empty
  | @held m stage processor worker unspoiled hand told =>
    simp only [System.act, Machine.work, worker]
    exact .held processor worker unspoiled hand told
  | @working m w engaged stage processor worker unspoiled sound running place looping =>
    have works := m.works steady worker unspoiled sound engaged
    have isBusy := Machine.isBusy_of_worker worker
    simp only [System.act]
    generalize m.work engaged = r at works ⊢
    cases works with
    | begins phase =>
      rw [phase] at isBusy
      exact .working processor rfl unspoiled (by simp) (fun _ => rfl)
        (.inl (plain isBusy)) (by simp)
    | passes phase _ => exact .working processor worker unspoiled sound running place fun _ => phase
    | leaves phase reason | clears reason phase =>
      rw [phase] at isBusy
      exact .working processor rfl unspoiled (by simp) (fun _ => running isBusy)
        (.inl (plain isBusy)) (by simp)
    | retires phase bus stop cycles w' phase' =>
      rw [phase] at isBusy
      refine .working processor rfl unspoiled (fun crash => ?_) (fun _ => running isBusy)
        (.inl (plain isBusy)) (by simp)
      cases phase'.symm.trans crash
    | stops phase bus stop outcome w' reason =>
      rw [phase] at isBusy
      exact .working processor rfl unspoiled (by simp) (fun _ => running isBusy)
        (.inl (plain isBusy)) (by simp)
    | publishes reason phase =>
      rw [phase] at isBusy
      exact .working processor rfl unspoiled (by simp) (fun busy => by cases busy)
        (.inl (plain isBusy)) (by simp)
    | rests reason phase => exact .working processor worker unspoiled sound running place (by simp)

/-- A stop request does not touch what the processor hangs on. -/
theorem Coherent.requestStop (h : s.Coherent) : (s.act .requestStop).1.Coherent := by
  cases h with
  | kept processor worker unspoiled empty => exact .kept processor worker unspoiled empty
  | held processor worker unspoiled hand told => exact .held processor worker unspoiled hand told
  | working processor worker unspoiled sound running place looping =>
    exact .working processor worker unspoiled sound running place looping

theorem Coherent.useBus (h : s.Coherent) (use : Bus σ → Bus σ) :
    (s.act (.useBus use)).1.Coherent := by
  have used {m : Machine π σ} (unspoiled : m.poisoned = false) :
      (m.withBus fun b => (use b, ())).1 = { m with bus := use m.bus } := by
    unfold Machine.withBus
    rw [if_neg (ne_true_of_eq_false unspoiled)]
  cases h with
  | kept processor worker unspoiled empty =>
    simp only [System.act, used unspoiled]
    exact .kept processor worker unspoiled empty
  | held processor worker unspoiled hand told =>
    simp only [System.act, used unspoiled]
    exact .held processor worker unspoiled hand told
  | working processor worker unspoiled sound running place looping =>
    simp only [System.act, used unspoiled]
    exact .working processor worker unspoiled sound running place looping

theorem Coherent.call (h : s.Coherent) (call : Call) : (s.act (.call call)).1.Coherent := by
  cases h with
  | @kept m stage processor worker unspoiled empty =>
    cases stage with
    | idle => exact .kept processor worker unspoiled rfl
    | _ => exact .kept processor worker unspoiled empty
  | @held m stage processor worker unspoiled hand told =>
    cases stage with
    | idle => cases hand
    | _ => exact .held processor worker unspoiled hand told
  | @working m w engaged stage processor worker unspoiled sound running place looping =>
    cases stage with
    | idle => exact .working processor worker unspoiled sound running (.inl rfl) looping
    | _ => exact .working processor worker unspoiled sound running place looping

theorem Coherent.act (steady : Processor.Steady π σ) (h : s.Coherent) (a : Act σ) :
    (s.act a).1.Coherent := by
  cases a with
  | call call => exact h.call call
  | proceed => exact h.proceed
  | work => exact h.work steady
  | stray i =>
    simp only [System.act, h.strays, List.getElem?_nil]
    exact h
  | requestStop => exact h.requestStop
  | useBus use => exact h.useBus use

theorem Coherent.run (steady : Processor.Steady π σ) (h : s.Coherent) (acts : List (Act σ)) :
    (s.run acts).Coherent := by
  induction acts generalizing s with
  | nil => exact h
  | cons a acts ih => exact ih (h.act steady a)

/-! ## What the controller leaves to the worker -/

omit [Processor π σ] in
/-- Once the worker has ended, the controller takes over from it. -/
theorem join_fst (s : System π σ) {m : Machine π σ} (call : Call) (ended : m.isBusy = false) :
    ∃ stage : Stage π, stage.hand? = none ∧
      (s.join m call).1 = { s with machine := m.join.1, stage := stage } := by
  unfold System.join
  rw [if_neg (ne_true_of_eq_false ended)]
  rcases m.join with ⟨m', e | outcome⟩
  · exact ⟨.idle, rfl, rfl⟩
  · cases call with
    | spawn limit => exact ⟨.asking limit, rfl, rfl⟩
    | halt => exact ⟨.halting, rfl, rfl⟩
    | wait | pause | resetHalt => exact ⟨.idle, rfl, rfl⟩

/-- A worker that is in its run is there still, and so is the request that it stop. -/
structure Spares (s t : System π σ) : Prop where
  engaged : t.engaged = s.engaged
  worker : t.machine.worker = s.machine.worker ∨
    s.machine.isBusy = false ∧ t.machine.worker = none
  stop : s.machine.isBusy = true → s.machine.control.stop = true →
    t.machine.control.stop = true

omit [Processor π σ] in
/-- But for a start, the controller spares the worker. -/
theorem Coherent.spares (h : s.Coherent) (apart : ∀ limit p, s.stage ≠ .starting limit p) :
    s.Spares s.proceed.1 := by
  have plain := h.plain
  clear h
  obtain ⟨m, strays, engaged, stage⟩ := s
  have kept {stage' : Stage π} : Spares ⟨m, strays, engaged, stage⟩ ⟨m, strays, engaged, stage'⟩ :=
    ⟨rfl, .inl rfl, fun _ stop => stop⟩
  cases stage with
  | idle => exact kept
  | entered call =>
    cases call with
    | spawn limit =>
      simp only [System.proceed, enter]
      split
      · exact kept
      · exact kept
    | wait => exact kept
    | pause | halt => exact ⟨rfl, .inl m.stopping_worker, fun _ => Machine.stop_stopping⟩
    | resetHalt =>
      simp only [System.proceed, enter]
      split
      · exact kept
      · exact kept
  | joining call =>
    cases busy : m.isBusy with
    | true =>
      simp only [System.proceed, System.join, busy]
      exact kept
    | false =>
      obtain ⟨next, -, joined⟩ := join_fst ⟨m, strays, engaged, .joining call⟩ call busy
      change Spares _ (System.join _ m call).1
      rw [joined]
      exact ⟨rfl, .inr ⟨busy, Machine.worker_join busy⟩, fun here => by cases busy.symm.trans here⟩
  | asking limit =>
    simp only [System.proceed, ask]
    split
    · exact kept
    · split
      · exact kept
      · exact ⟨rfl, .inl rfl, fun _ stop => stop⟩
  | starting limit p => exact absurd rfl (apart limit p)
  | announcing | halting | releasing => exact ⟨rfl, .inl rfl, fun _ stop => stop⟩
  | clearing | resetting => exact ⟨rfl, .inl rfl, fun busy => by cases plain busy⟩

/-- The other parties see to nothing but the stop request and the bus. -/
theorem Coherent.aside (h : s.Coherent) {a : Act σ} (other : a ≠ .work ∧ a ≠ .proceed) :
    (s.act a).2 = none ∧ s.Spares (s.act a).1 ∧
      (s.act a).1.machine.control.state = s.machine.control.state ∧
      (s.act a).1.machine.worker = s.machine.worker ∧
      (s.act a).1.stage.hand? = s.stage.hand? := by
  cases a with
  | work => exact absurd rfl other.1
  | proceed => exact absurd rfl other.2
  | call call =>
    obtain ⟨m, strays, engaged, stage⟩ := s
    cases stage with
    | idle => exact ⟨rfl, ⟨rfl, .inl rfl, fun _ stop => stop⟩, rfl, rfl, rfl⟩
    | _ => exact ⟨rfl, ⟨rfl, .inl rfl, fun _ stop => stop⟩, rfl, rfl, rfl⟩
  | stray i =>
    have absent : s.act (.stray i) = (s, none) := by
      simp only [System.act, h.strays, List.getElem?_nil]
    rw [absent]
    exact ⟨rfl, ⟨rfl, .inl rfl, fun _ stop => stop⟩, rfl, rfl, rfl⟩
  | requestStop => exact ⟨rfl, ⟨rfl, .inl rfl, fun _ _ => rfl⟩, rfl, rfl, rfl⟩
  | useBus use =>
    have worker := s.machine.withBus_worker fun b => (use b, ())
    have control := s.machine.withBus_control fun b => (use b, ())
    exact ⟨rfl, ⟨rfl, .inl worker, fun _ stop => (congrArg RunControl.stop control).trans stop⟩,
      congrArg RunControl.state control, worker, rfl⟩

end System
end Backplane
