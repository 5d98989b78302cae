import Mathlib
import Backplane.Run.Machine

/-!
# Interleavings of controller and worker

The operations of a machine are no single steps: while the controller is inside a call, the
worker executes instructions, and a stop may be requested through a handle. Here a call is
split at each access to what is shared, and a turn of the worker between its checks and the
instruction that follows them. A `System` is a machine in the midst of all this, an `Act`
is one step of one party, and a schedule is any list of acts; an act that its party is not
ready for changes nothing.

A worker that the controller no longer knows of would go on by itself. The system keeps
such strays, so that it is a matter of proof that there are none.

The operations of a machine are schedules of the controller and of the worker it waits for
(`returns_spawn`, `returns_wait`, `returns_pause`, `returns_halt`, `returns_resetHalt`).
-/

namespace Backplane

variable {π σ : Type}

/-! ## Turns in two steps -/

namespace Machine

/-- Why a worker does not go on to an instruction. -/
def refusal? (m : Machine π σ) (w : Worker π) : Option StopReason :=
  if m.control.stop then some .stopRequested
  else if reaches w.limit w.steps then some .limitReached
  else none

/-- The worker leaves its loop. -/
def leave (m : Machine π σ) (w : Worker π) (reason : StopReason) : Machine π σ :=
  { m with worker := some { w with phase := .clearing reason } }

/-- The machine, whose worker is asked to stop if there is one. -/
def stopping (m : Machine π σ) : Machine π σ := if m.worker.isNone then m else m.requestStop

variable [Processor π σ]

/-- To pause is to ask for a stop and to wait. -/
theorem pause_eq (steps : Nat) (m : Machine π σ) : m.pause steps = m.stopping.wait steps := by
  unfold pause stopping
  cases worker : m.worker with
  | none =>
    have idle : m.isBusy = false := by rw [isBusy, worker]
    have settled : m.settle steps = m := by
      cases steps with
      | zero => rfl
      | succ steps => rw [settle, idle, if_neg Bool.false_ne_true]
    rw [Option.isNone_none, if_pos rfl, if_pos rfl, wait, settled, join, worker]
  | some w => rfl

/-- The worker executes the instruction that its checks let pass. -/
def execute (m : Machine π σ) (w : Worker π) : Machine π σ :=
  if m.poisoned then m.leave w .halted
  else
    let s := Processor.step w.processor m.bus
    let m := { m with
      bus := s.bus
      control := { m.control with stop := m.control.stop || s.stop } }
    match s.outcome with
    | .retired cycles =>
      { m with worker := some { w with
          processor := s.processor
          steps := w.steps + 1
          cycles := w.cycles + cycles.toUInt64 } }
    | .halted => m.leave { w with processor := s.processor } .halted
    | .fault fault => m.leave { w with processor := s.processor } (.fault fault)
    | .crashed => { m with poisoned := true, worker := some { w with phase := .crashed } }

/-- A turn checks, and executes an instruction if nothing speaks against it. -/
theorem turn_eq (m : Machine π σ) (w : Worker π) :
    m.turn w =
      match m.refusal? w with
      | some reason => m.leave w reason
      | none => m.execute w := by
  unfold turn refusal? execute leave
  split
  · rfl
  · split
    · rfl
    · rfl

end Machine

/-! ## Systems -/

/-- A call of the controller. -/
inductive Call where
  /-- Starts a run, or goes on after one, which is the same. -/
  | spawn (limit : Option UInt64)
  /-- Waits for the run to end. -/
  | wait
  /-- Stops the run. -/
  | pause
  /-- Stops the run and keeps the machine from running. -/
  | halt
  /-- Clears a halt. -/
  | resetHalt
  deriving DecidableEq, Repr

/-- Where the controller stands. -/
inductive Stage (π : Type) where
  /-- Between calls. -/
  | idle
  /-- At the begin of a call. -/
  | entered (call : Call)
  /-- It waits for the worker to end. -/
  | joining (call : Call)
  /-- It is about to ask for the state, and to take the processor. -/
  | asking (limit : Option UInt64)
  /-- It has the processor, and is about to take back any stop request. -/
  | clearing (limit : Option UInt64) (processor : π)
  /-- It has the processor, and is about to tell that the machine runs. -/
  | announcing (limit : Option UInt64) (processor : π)
  /-- It has the processor, and is about to start a worker. -/
  | starting (limit : Option UInt64) (processor : π)
  /-- It is about to tell that the machine has halted. -/
  | halting
  /-- It has seen a halt, and is about to take back any stop request. -/
  | resetting
  /-- It has seen a halt, and is about to tell that the machine is paused. -/
  | releasing
  deriving DecidableEq, Repr

/-- The processor at hand, neither in its place nor with a worker. -/
def Stage.hand? : Stage π → Option π
  | clearing _ processor | announcing _ processor | starting _ processor => some processor
  | idle | entered _ | joining _ | asking _ | halting | resetting | releasing => none

/-- A worker that the controller no longer knows of. -/
structure Stray (π : Type) where
  /-- The worker. -/
  worker : Worker π
  /-- Whether it is about to execute an instruction. -/
  engaged : Bool

/-- A machine in the midst of calls and instructions. -/
structure System (π σ : Type) where
  /-- The machine, with the worker that the controller knows of. -/
  machine : Machine π σ
  /-- Workers that the controller no longer knows of. -/
  strays : List (Stray π) := []
  /-- Whether the worker's checks have let an instruction pass that it has not completed. -/
  engaged : Bool := false
  /-- Where the controller stands. -/
  stage : Stage π := .idle

/-- What can be seen of a system. -/
inductive RunEvent where
  /-- A call has returned; `ok` tells whether it succeeded. -/
  | returned (call : Call) (ok : Bool)
  /-- An instruction has been executed. -/
  | executed (outcome : StepOutcome)
  /-- A run has ended. -/
  | ended (reason : StopReason)
  deriving DecidableEq, Repr

/-- One step of one party. -/
inductive Act (σ : Type) where
  /-- The controller calls. -/
  | call (call : Call)
  /-- The controller goes on inside its call. -/
  | proceed
  /-- The worker goes on. -/
  | work
  /-- A worker goes on that the controller no longer knows of. -/
  | stray (index : Nat)
  /-- A stop is requested through a handle. -/
  | requestStop
  /-- A tool uses the bus. -/
  | useBus (use : Bus σ → Bus σ)

namespace System

/-- A new machine. -/
def new (bus : Bus σ) (devices : Registry) (processor : π) : System π σ where
  machine := { bus := bus, devices := devices, processor := some processor }

variable (s : System π σ)

/-- The processors that the machine has, in its place or at hand. -/
def owned : List π := s.machine.processor.toList ++ s.stage.hand?.toList

/-- All workers, each with a processor of its own. -/
def workers : List (Worker π) := s.machine.worker.toList ++ s.strays.map Stray.worker

/-! ## The controller -/

/-- The call goes on. -/
def goto (m : Machine π σ) (stage : Stage π) : System π σ × Option RunEvent :=
  ({ s with machine := m, stage := stage }, none)

/-- The call returns. -/
def answer (m : Machine π σ) (call : Call) (ok : Bool) : System π σ × Option RunEvent :=
  ({ s with machine := m, stage := .idle }, some (.returned call ok))

/-- The begin of a call. -/
def enter (m : Machine π σ) : Call → System π σ × Option RunEvent
  | .spawn limit =>
    if m.worker.isSome && m.control.state ≠ .running then s.goto m (.joining (.spawn limit))
    else s.goto m (.asking limit)
  | .wait => s.goto m (.joining .wait)
  | .pause => s.goto m.stopping (.joining .pause)
  | .halt => s.goto m.stopping (.joining .halt)
  | .resetHalt =>
    if m.control.state = .halted then s.goto m .resetting else s.answer m .resetHalt true

/-- The controller takes over from the worker, once that has ended. -/
def join (m : Machine π σ) (call : Call) : System π σ × Option RunEvent :=
  if m.isBusy then (s, none)
  else match m.join with
    | (m, .error _) => s.answer m call false
    | (m, .ok _) =>
      match call with
      | .spawn limit => s.goto m (.asking limit)
      | .halt => s.goto m .halting
      | .wait | .pause | .resetHalt => s.answer m call true

/-- The controller takes the processor to start a run. -/
def ask (m : Machine π σ) (limit : Option UInt64) : System π σ × Option RunEvent :=
  if m.control.state = .halted then s.answer m (.spawn limit) false
  else match m.processor with
    | none => s.answer m (.spawn limit) false
    | some processor => s.goto { m with processor := none } (.clearing limit processor)

/-- The controller starts a worker. One that it had before becomes a stray. -/
def launch (m : Machine π σ) (limit : Option UInt64) (processor : π) :
    System π σ × Option RunEvent :=
  ({ machine := { m with worker := some { processor := processor, limit := limit } }
     strays := (m.worker.toList.map fun w => ⟨w, s.engaged⟩) ++ s.strays },
    some (.returned (.spawn limit) true))

/-- The controller goes on. -/
def proceed : System π σ × Option RunEvent :=
  let m := s.machine
  match s.stage with
  | .idle => (s, none)
  | .entered call => s.enter m call
  | .joining call => s.join m call
  | .asking limit => s.ask m limit
  | .clearing limit processor =>
    s.goto { m with control := { m.control with stop := false } } (.announcing limit processor)
  | .announcing limit processor =>
    s.goto { m with control := { m.control with state := .running } } (.starting limit processor)
  | .starting limit processor => s.launch m limit processor
  | .halting => s.answer { m with control := { m.control with state := .halted } } .halt true
  | .resetting => s.goto { m with control := { m.control with stop := false } } .releasing
  | .releasing =>
    s.answer { m with control := { m.control with state := .paused } } .resetHalt true

end System

/-! ## The worker -/

/-- A step of the worker, which may be about to execute an instruction. -/
def Machine.work [Processor π σ] (m : Machine π σ) (engaged : Bool) :
    Machine π σ × Bool × Option RunEvent :=
  match m.worker with
  | none => (m, engaged, none)
  | some w =>
    match w.phase with
    | .looping =>
      if engaged then
        (m.execute w, false,
          if m.poisoned then none else some (.executed (Processor.step w.processor m.bus).outcome))
      else match m.refusal? w with
        | some reason => (m.leave w reason, false, none)
        | none => (m, true, none)
    | .publishing reason => (m.advance, false, some (.ended reason))
    | .starting | .clearing _ | .finished _ | .crashed => (m.advance, false, none)

namespace System

variable [Processor π σ] (s : System π σ)

/-! ## Acts and schedules -/

/-- A step of the system, and what can be seen of it. -/
def act : Act σ → System π σ × Option RunEvent
  | .call call =>
    match s.stage with
    | .idle => s.goto s.machine (.entered call)
    | _ => (s, none)
  | .proceed => s.proceed
  | .work =>
    let (m, engaged, event) := s.machine.work s.engaged
    ({ s with machine := m, engaged := engaged }, event)
  | .stray i =>
    match s.strays[i]? with
    | none => (s, none)
    | some t =>
      let (m, engaged, event) := { s.machine with worker := some t.worker }.work t.engaged
      ({ s with
          machine := { m with worker := s.machine.worker }
          strays := s.strays.set i ⟨m.worker.getD t.worker, engaged⟩ }, event)
  | .requestStop => ({ s with machine := s.machine.requestStop }, none)
  | .useBus use => ({ s with machine := (s.machine.withBus fun b => (use b, ())).1 }, none)

/-- The system after a schedule. -/
def run (acts : List (Act σ)) : System π σ := acts.foldl (fun s a => (s.act a).1) s

/-- What can be seen of a schedule. -/
def events : System π σ → List (Act σ) → List RunEvent
  | _, [] => []
  | s, a :: acts => (s.act a).2.toList ++ events (s.act a).1 acts

theorem run_append (acts later : List (Act σ)) : s.run (acts ++ later) = (s.run acts).run later :=
  List.foldl_append

end System

/-! ## The operations of a machine as schedules -/

namespace System

variable [Processor π σ] {m m' : Machine π σ} {s t u : System π σ} {stage : Stage π}

/-- A machine that no other party acts on. -/
def only (m : Machine π σ) (stage : Stage π) : System π σ where
  machine := m
  stage := stage

/-- Some schedule leads from a system to another. -/
def Leads (s t : System π σ) : Prop := ∃ acts, s.run acts = t

theorem Leads.refl (s : System π σ) : s.Leads s := ⟨[], rfl⟩

theorem Leads.trans : s.Leads t → t.Leads u → s.Leads u := by
  rintro ⟨acts, rfl⟩ ⟨later, rfl⟩
  exact ⟨acts ++ later, s.run_append acts later⟩

theorem Leads.act (a : Act σ) (h : (s.act a).1 = t) : s.Leads t := ⟨[a], h⟩

theorem Leads.proceed {event : Option RunEvent} (h : s.proceed = (t, event)) : s.Leads t :=
  .act .proceed (congrArg Prod.fst h)

/-- A small step of the worker is one act, or two for a turn that executes an instruction. -/
theorem leads_advance (m : Machine π σ) (stage : Stage π) :
    (only m stage).Leads (only m.advance stage) := by
  cases worker : m.worker with
  | none =>
    rw [Machine.advance, worker]
    exact .refl _
  | some w =>
    cases phase : w.phase with
    | looping =>
      have turn : m.advance = m.turn w := by
        rw [Machine.advance, worker]
        simp only [phase]
      rw [turn, m.turn_eq]
      cases refused : m.refusal? w with
      | some reason =>
        refine .act .work ?_
        simp only [System.act, only, Machine.work, worker, phase, refused,
          if_neg Bool.false_ne_true]
      | none =>
        refine ⟨[.work, .work], ?_⟩
        simp only [run, List.foldl_cons, List.foldl_nil, System.act, only, Machine.work, worker,
          phase, refused, if_neg Bool.false_ne_true, if_true]
    | starting | clearing reason | publishing reason | finished reason | crashed =>
      refine .act .work ?_
      simp only [System.act, only, Machine.work, worker, phase]

theorem leads_settle (n : Nat) (m : Machine π σ) (stage : Stage π) :
    (only m stage).Leads (only (m.settle n) stage) := by
  induction n generalizing m with
  | zero => exact .refl _
  | succ n ih =>
    rw [Machine.settle]
    split
    · exact (leads_advance m stage).trans (ih m.advance)
    · exact .refl _

/-- Some schedule leads to where the call returns, and leaves `m` behind. -/
def Returns (s : System π σ) (call : Call) (m : Machine π σ) (ok : Bool) : Prop :=
  ∃ t, s.Leads t ∧ t.proceed = (only m .idle, some (.returned call ok))

theorem Leads.returns {call : Call} {ok : Bool} (h : s.Leads t) :
    t.Returns call m ok → s.Returns call m ok := by
  rintro ⟨u, rest, last⟩
  exact ⟨u, h.trans rest, last⟩

theorem Returns.proceed {call : Call} {ok : Bool}
    (h : s.proceed = (only m .idle, some (.returned call ok))) : s.Returns call m ok :=
  ⟨s, .refl s, h⟩

omit [Processor π σ] in
/-- Once its worker has ended, the controller takes over at one step. -/
theorem proceed_joining (call : Call) (ended : m.isBusy = false) :
    (only m (.joining call)).proceed =
      match m.join with
      | (m, .error _) => (only m .idle, some (.returned call false))
      | (m, .ok _) =>
        match call with
        | .spawn limit => (only m (.asking limit), none)
        | .halt => (only m .halting, none)
        | .wait | .pause | .resetHalt => (only m .idle, some (.returned call true)) :=
  if_neg (ne_true_of_eq_false ended)

omit [Processor π σ] in
theorem worker_of_join {outcome : Option RunOutcome} (h : m.join = (m', .ok outcome)) :
    m'.worker = none := by
  unfold Machine.join at h
  split at h
  · rename_i absent
    cases h
    exact absent
  · split at h
    all_goals cases h
    rfl

omit [Processor π σ] in
/-- The controller asks for the state and for the processor at one step. -/
theorem proceed_asking (m : Machine π σ) (limit : Option UInt64) :
    (only m (.asking limit)).proceed =
      if m.control.state = .halted then (only m .idle, some (.returned (.spawn limit) false))
      else match m.processor with
        | none => (only m .idle, some (.returned (.spawn limit) false))
        | some p => (only { m with processor := none } (.clearing limit p), none) :=
  rfl

/-- A worker is started in four steps. -/
theorem returns_launch (limit : Option UInt64) (apart : m.processor.isSome → m.worker = none) :
    (only m (.asking limit)).Returns (.spawn limit) (m.launch limit).1
      (m.launch limit).2.isOk := by
  have asked := proceed_asking m limit
  unfold Machine.launch
  by_cases halted : m.control.state = .halted
  · rw [if_pos halted] at asked ⊢
    exact .proceed asked
  · rw [if_neg halted] at asked ⊢
    cases processor : m.processor with
    | none =>
      rw [processor] at asked
      exact .proceed asked
    | some p =>
      rw [processor] at asked
      have alone : m.worker = none := apart (by rw [processor]; rfl)
      refine (Leads.proceed asked).returns (Leads.returns ⟨[.proceed, .proceed], rfl⟩ ?_)
      refine .proceed ?_
      simp only [run, List.foldl_cons, List.foldl_nil, System.act, System.proceed, goto, launch,
        only, alone]
      rfl

/-- The controller takes over from a worker that ends in time, and returns. -/
theorem returns_joining {call : Call} (last : call = .wait ∨ call = .pause) {steps : Nat}
    (ends : (m.settle steps).isBusy = false) :
    (only m (.joining call)).Returns call (m.wait steps).1 (m.wait steps).2.isOk := by
  refine (leads_settle steps m _).returns (.proceed ?_)
  rw [proceed_joining call ends, Machine.wait]
  obtain ⟨m', e | outcome⟩ := (m.settle steps).join
  · rfl
  · rcases last with rfl | rfl
    · rfl
    · rfl

/-- Starting a run is a schedule of the steps of the controller, and the worker's if it is
awaited. -/
theorem returns_spawn (m : Machine π σ) (limit : Option UInt64) {steps : Nat}
    (apart : m.processor.isSome → m.worker = none)
    (ends : m.worker.isSome → m.control.state ≠ .running → (m.settle steps).isBusy = false) :
    (only m (.entered (.spawn limit))).Returns (.spawn limit) (m.spawn steps limit).1
      (m.spawn steps limit).2.isOk := by
  unfold Machine.spawn
  by_cases stopped : (m.worker.isSome && decide (m.control.state ≠ .running)) = true
  · rw [if_pos stopped, Machine.wait]
    rw [Bool.and_eq_true, decide_eq_true_iff] at stopped
    have entered : (only m (.entered (.spawn limit))).proceed =
        (only m (.joining (.spawn limit)), none) :=
      if_pos (by rw [Bool.and_eq_true, decide_eq_true_iff]; exact stopped)
    refine (Leads.proceed entered).returns ((leads_settle steps m _).returns ?_)
    have joined := proceed_joining (.spawn limit) (ends stopped.1 stopped.2)
    rcases join : (m.settle steps).join with ⟨m', e | outcome⟩
    · rw [join] at joined
      exact .proceed joined
    · rw [join] at joined
      exact (Leads.proceed joined).returns (returns_launch limit fun _ => worker_of_join join)
  · rw [if_neg stopped]
    have entered : (only m (.entered (.spawn limit))).proceed = (only m (.asking limit), none) :=
      if_neg stopped
    exact (Leads.proceed entered).returns (returns_launch limit apart)

theorem returns_wait (m : Machine π σ) {steps : Nat} (ends : (m.settle steps).isBusy = false) :
    (only m (.entered .wait)).Returns .wait (m.wait steps).1 (m.wait steps).2.isOk :=
  Leads.returns (.act .proceed rfl) (returns_joining (.inl rfl) ends)

theorem returns_pause (m : Machine π σ) {steps : Nat}
    (ends : (m.stopping.settle steps).isBusy = false) :
    (only m (.entered .pause)).Returns .pause (m.pause steps).1 (m.pause steps).2.isOk := by
  rw [m.pause_eq]
  exact Leads.returns (.act .proceed rfl) (returns_joining (.inr rfl) ends)

theorem returns_halt (m : Machine π σ) {steps : Nat}
    (ends : (m.stopping.settle steps).isBusy = false) :
    (only m (.entered .halt)).Returns .halt (m.halt steps).1 (m.halt steps).2.isOk := by
  have entered : (only m (.entered .halt)).proceed = (only m.stopping (.joining .halt), none) := rfl
  have joined := proceed_joining .halt ends
  refine (Leads.proceed entered).returns ((leads_settle steps m.stopping _).returns ?_)
  rw [Machine.halt, m.pause_eq, Machine.wait]
  rcases join : (m.stopping.settle steps).join with ⟨m', e | outcome⟩
  · rw [join] at joined
    exact .proceed joined
  · rw [join] at joined
    exact (Leads.proceed joined).returns (.proceed rfl)

theorem returns_resetHalt (m : Machine π σ) :
    (only m (.entered .resetHalt)).Returns .resetHalt m.resetHalt true := by
  unfold Machine.resetHalt
  by_cases halted : m.control.state = .halted
  · rw [if_pos halted]
    have entered : (only m (.entered .resetHalt)).proceed = (only m .resetting, none) :=
      if_pos halted
    exact (Leads.proceed entered).returns (Leads.returns (.act .proceed rfl) (.proceed rfl))
  · rw [if_neg halted]
    exact .proceed (if_neg halted)

end System
end Backplane
