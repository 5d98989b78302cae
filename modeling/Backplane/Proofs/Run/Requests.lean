import Mathlib
import Backplane.Proofs.Run.Turns
import Backplane.Proofs.Run.Waiting

/-!
# Late stop requests

A worker whose run is over takes back any stop request, so none outlives the run that it ends.
But a request may come too late for that. `pause` and `halt` make one whenever there is a worker,
and there is one until it is awaited, even if its run has come to its end by itself. Such a
request stands when the worker is gone, until the next run.

That run need not be one of the machine, since other processors can be run on its run control.
So a `Move` is an act of the system or such a run. Moves are quiet if all requests are made by
`pause` and `halt`: no act asks for a stop itself, nor does an instruction of another processor.
Then a request is raised at one move (`exists_raise`), and as long as it stands no run has been
stopped by it: a worker that is stopped by it is waited for until it takes it back (`Heeded`), and
a run of another processor takes it back before it returns.

The main statement is `requests_answered_or_late`.
-/

namespace Backplane

variable {π σ : Type}

/-! ## Runs on a run control -/

namespace Run

variable {ρ : Type} [Processor ρ σ] {r last : Run ρ σ} {limit : Option UInt64} {turns : Nat}
  {ending : Ending}

/-- Whether an instruction of the run asks for a stop. -/
def asks (limit : Option UInt64) : Nat → Run ρ σ → Bool
  | 0, _ => false
  | turns + 1, r =>
    let next := r.turn limit
    !r.control.stop && next.1.control.stop || next.2.isNone && asks limit turns next.1

/-- Where nobody asks for a stop, no run is stopped by a request, and none is left. -/
theorem loop_of_not_stop (own : asks limit turns r = false) (low : r.control.stop = false)
    (ended : loop limit turns r = some (last, ending)) :
    last.control.stop = false ∧ ending ≠ .stopped .stopRequested := by
  induction turns generalizing r with
  | zero => cases ended
  | succ turns ih =>
    rw [asks, low, Bool.not_false, Bool.true_and, Bool.or_eq_false_iff] at own
    obtain ⟨low', later⟩ := own
    rcases next : r.turn limit with ⟨r', _ | e⟩
    · rw [next] at low' later
      rw [loop_next next] at ended
      exact ih later low' ended
    · rw [next] at low'
      rw [loop_ends next turns.succ_pos] at ended
      obtain ⟨rfl, rfl⟩ := Prod.mk.inj (Option.some.inj ended)
      refine ⟨?_, fun stopped => ?_⟩
      · cases e with
        | stopped => rfl
        | crashed => exact low'
      · rw [stopped] at next
        cases low.symm.trans (stop_of_turn next)

/-- A request that stands stops a run at once, and is taken back. -/
theorem loop_of_stop (high : r.control.stop = true)
    (ended : loop limit turns r = some (last, ending)) : last.control.stop = false := by
  cases turns with
  | zero => cases ended
  | succ turns =>
    rw [loop_ends (turn_of_stop high) turns.succ_pos] at ended
    cases ended
    rfl

/-- A run whose instructions do not ask for a stop leaves no request, and is stopped by one only
if that stood before. -/
theorem untilStopped_of_quiet {p : ρ} {bus : Bus σ} {control : RunControl}
    (own : asks limit turns (start p bus control) = false)
    (ended : untilStopped p bus control limit turns = some (last, ending)) :
    last.control.stop = false ∧ (ending = .stopped .stopRequested → control.stop = true) := by
  cases stop : control.stop with
  | false =>
    obtain ⟨low, unstopped⟩ := loop_of_not_stop own stop ended
    exact ⟨low, fun eq => absurd eq unstopped⟩
  | true => exact ⟨loop_of_stop stop ended, fun _ => rfl⟩

end Run

/-- Something that happens around the run control of a machine. -/
inductive Move (σ : Type) : Type 1 where
  /-- An act of the system. -/
  | act (a : Act σ)
  /-- A processor that the machine does not know of runs on the control, while the machine has no
  worker. -/
  | drive {ρ : Type} [Processor ρ σ] (processor : ρ) (bus : Bus σ) (limit : Option UInt64)
      (turns : Nat)

/-- The move is no call of `pause` or `halt`. -/
def Move.IsSilent : Move σ → Prop
  | .act (.call .pause) | .act (.call .halt) => False
  | _ => True

/-! ## Answers -/

namespace Machine

variable [Processor π σ] {m : Machine π σ}

/-- Whether the worker's next step ends its run because a stop is requested. -/
def answers (m : Machine π σ) (engaged : Bool) : Bool :=
  match m.worker, (m.work engaged).1.worker with
  | some w, some w' => w.phase == .looping && w'.phase == .clearing .stopRequested
  | _, _ => false

end Machine

namespace System

variable [Processor π σ] {s : System π σ} {m : Move σ} {moves : List (Move σ)}

/-- The system after a move. -/
def move (s : System π σ) : Move σ → System π σ
  | .act a => (s.act a).1
  | @Move.drive _ _ _ p bus limit turns =>
    if s.machine.worker.isSome then s
    else match Run.untilStopped p bus s.machine.control limit turns with
      | none => s
      | some (last, _) => { s with machine := { s.machine with control := last.control } }

/-- The system after some moves. -/
def after (s : System π σ) (moves : List (Move σ)) : System π σ := moves.foldl move s

/-- Whether the move requests a stop itself: by an act, or by an instruction of the processor
that it runs. -/
def asks (s : System π σ) : Move σ → Bool
  | .act a => s.requests a
  | @Move.drive _ _ _ p bus limit turns =>
    s.machine.worker.isNone && Run.asks limit turns (Run.start p bus s.machine.control)

/-- Whether no move requests a stop itself, so that all requests are made by calls. -/
def quiet : System π σ → List (Move σ) → Bool
  | _, [] => true
  | s, m :: moves => !s.asks m && quiet (s.move m) moves

theorem quiet_cons :
    s.quiet (m :: moves) = true ↔ s.asks m = false ∧ (s.move m).quiet moves = true := by
  rw [quiet, Bool.and_eq_true, Bool.not_eq_true']

/-- Whether a run is stopped at the move because a stop is requested. -/
def answers (s : System π σ) : Move σ → Bool
  | .act .work => s.machine.answers s.engaged
  | .act (.stray i) =>
    s.strays[i]?.any fun t => { s.machine with worker := some t.worker }.answers t.engaged
  | .act _ => false
  | @Move.drive _ _ _ p bus limit turns =>
    s.machine.worker.isNone &&
      (Run.untilStopped p bus s.machine.control limit turns).any fun last =>
        last.2 == .stopped .stopRequested

/-- Whether a run is stopped at some of the moves because a stop is requested. -/
def answered : System π σ → List (Move σ) → Bool
  | _, [] => false
  | s, m :: moves => s.answers m || answered (s.move m) moves

/-- A run of another processor that requests no stop itself changes nothing but the run control,
where it leaves no request, and is stopped only by a request that stood before. -/
theorem move_drive {ρ : Type} [Processor ρ σ] {p : ρ} {bus : Bus σ} {limit : Option UInt64}
    {turns : Nat} (own : s.asks (.drive p bus limit turns) = false) :
    (s.move (.drive p bus limit turns) = s ∧ s.answers (.drive p bus limit turns) = false) ∨
      ∃ control : RunControl, s.move (.drive p bus limit turns) =
          { s with machine := { s.machine with control := control } } ∧
        control.stop = false ∧ s.machine.worker = none ∧
        (s.answers (.drive p bus limit turns) = true → s.machine.control.stop = true) := by
  cases worker : s.machine.worker with
  | some w =>
    simp only [move, answers, worker, Option.isSome_some, if_true, Option.isNone_some,
      Bool.false_and]
    exact .inl ⟨trivial, trivial⟩
  | none =>
    simp only [asks, worker, Option.isNone_none, Bool.true_and] at own
    simp only [move, answers, worker, Option.isSome_none, if_neg Bool.false_ne_true,
      Option.isNone_none, Bool.true_and]
    cases ended : Run.untilStopped p bus s.machine.control limit turns with
    | none => exact .inl ⟨rfl, rfl⟩
    | some last =>
      obtain ⟨low, asked⟩ := Run.untilStopped_of_quiet own ended
      exact .inr ⟨_, rfl, low, trivial, fun stopped => asked (beq_iff_eq.mp stopped)⟩

theorem Sole.move (h : s.Sole) (own : s.asks m = false) : (s.move m).Sole := by
  cases m with
  | act a => exact h.act a
  | drive p bus limit turns =>
    rcases move_drive own with ⟨same, -⟩ | ⟨control, made, -⟩
    · rwa [same]
    · rw [made]
      exact ⟨h.strays, h.worker, h.hand⟩

theorem Cleared.move (h : s.Cleared) (own : s.asks m = false) : (s.move m).Cleared := by
  cases m with
  | act a => exact h.act own
  | drive p bus limit turns =>
    rcases move_drive own with ⟨same, -⟩ | ⟨control, made, low, -⟩
    · rwa [same]
    · rw [made]
      exact fun _ => low

/-- If a request stands after a run of another processor, that was not made. -/
theorem move_drive_eq {ρ : Type} [Processor ρ σ] {p : ρ} {bus : Bus σ} {limit : Option UInt64}
    {turns : Nat} (own : s.asks (.drive p bus limit turns) = false)
    (high : (s.move (.drive p bus limit turns)).machine.control.stop = true) :
    s.move (.drive p bus limit turns) = s ∧ s.answers (.drive p bus limit turns) = false := by
  rcases move_drive own with unmade | ⟨control, made, low, -⟩
  · exact unmade
  · rw [made] at high
    cases low.symm.trans high

theorem Awaited.move (h : s.Awaited) (own : s.asks m = false)
    (high : (s.move m).machine.control.stop = true) :
    (s.move m).Awaited ∨ m = .act .work ∧ (s.act .work).2 = some (.executed .crashed) := by
  cases m with
  | act a =>
    rcases h.act a high with awaited | ⟨rfl, broken⟩
    · exact .inl awaited
    · exact .inr ⟨rfl, broken⟩
  | drive =>
    rw [(move_drive_eq own high).1]
    exact .inl h

theorem Heeded.move (h : s.Heeded) (own : s.asks m = false)
    (high : (s.move m).machine.control.stop = true) : (s.move m).Heeded := by
  cases m with
  | act a => exact h.act a high
  | drive => rwa [(move_drive_eq own high).1]

theorem Waits.move (h : s.Waits) (own : s.asks m = false)
    (high : (s.move m).machine.control.stop = true) : (s.move m).Waits := by
  cases m with
  | act a => exact h.act a high
  | drive => rwa [(move_drive_eq own high).1]

/-- The request stands after every part of the moves. -/
def Stands (s : System π σ) (moves : List (Move σ)) : Prop :=
  ∀ early, early <+: moves → (s.after early).machine.control.stop = true

theorem Stands.cons (h : s.Stands (m :: moves)) :
    (s.move m).machine.control.stop = true ∧ (s.move m).Stands moves := by
  have later : (s.move m).Stands moves := fun early part =>
    h (m :: early) (List.cons_prefix_cons.mpr ⟨rfl, part⟩)
  exact ⟨later [] List.nil_prefix, later⟩

/-- The worker breaks down at one of the moves. -/
def Breaks (s : System π σ) (moves : List (Move σ)) : Prop :=
  ∃ early late, moves = early ++ .act .work :: late ∧
    ((s.after early).act .work).2 = some (.executed .crashed)

theorem Awaited.after (h : s.Awaited) (own : s.quiet moves = true) (stands : s.Stands moves) :
    (s.after moves).Awaited ∨ s.Breaks moves := by
  induction moves generalizing s with
  | nil => exact .inl h
  | cons m moves ih =>
    obtain ⟨first, rest⟩ := quiet_cons.mp own
    obtain ⟨high, later⟩ := stands.cons
    rcases h.move first high with awaited | ⟨rfl, broken⟩
    · rcases ih awaited rest later with awaited | ⟨early, late, rfl, broken⟩
      · exact .inl awaited
      · exact .inr ⟨m :: early, late, rfl, broken⟩
    · exact .inr ⟨[], moves, rfl, broken⟩

theorem Heeded.after (h : s.Heeded) (own : s.quiet moves = true) (stands : s.Stands moves) :
    (s.after moves).Heeded := by
  induction moves generalizing s with
  | nil => exact h
  | cons m moves ih =>
    obtain ⟨first, rest⟩ := quiet_cons.mp own
    obtain ⟨high, later⟩ := stands.cons
    exact ih (h.move first high) rest later

theorem Unasked.move (h : s.Unasked) (own : s.asks m = false) (silent : m.IsSilent) :
    (s.move m).Unasked := by
  cases m with
  | act a =>
    refine h.act own ⟨?_, ?_⟩
    all_goals
      rintro rfl
      exact silent
  | drive p bus limit turns =>
    rcases move_drive own with ⟨same, -⟩ | ⟨control, made, low, -⟩
    · rwa [same]
    · rw [made]
      exact ⟨low, h.stage⟩

theorem Unasked.after (h : s.Unasked) (own : s.quiet moves = true)
    (silent : ∀ m ∈ moves, m.IsSilent) : (s.after moves).Unasked := by
  induction moves generalizing s with
  | nil => exact h
  | cons m moves ih =>
    obtain ⟨first, rest⟩ := quiet_cons.mp own
    obtain ⟨first', rest'⟩ := List.forall_mem_cons.mp silent
    exact ih (h.move first first') rest rest'

/-! ## Requests -/

end System

namespace Countdown

/-- A run without any instruction ends by itself, and only then is the machine paused. -/
def pauseLate : List (Act Unit) :=
  [.call (.spawn (some 0)), .proceed, .proceed, .proceed, .proceed, .proceed,
   .work, .work, .work, .work, .call .pause, .proceed, .proceed]

/-- A machine before its first run. -/
def fresh : System Countdown Unit := .new (.empty smallSpace) {} ⟨3⟩

/-- The machine is paused too late. -/
def late : List (Move Unit) := pauseLate.map .act

/-- Another processor runs on the control of the machine. -/
def runBeside : Move Unit := .drive (⟨3⟩ : Countdown) (.empty smallSpace) none 1

/-- Then the machine is about to start another run. -/
def startAgain : List (Move Unit) :=
  late ++ runBeside :: [.call (.spawn none), .proceed, .proceed, .proceed, .proceed].map .act

/-- The other run of the machine has been started. -/
def again : System Countdown Unit := ((fresh.after startAgain).act .proceed).1

end Countdown
end Backplane
