import Backplane.Bus.Transfer

/-!
# Running a processor

A processor drives the bus one instruction at a time. Before each instruction
the run control is asked whether to stop, and then whether the limit of the run
is reached; so a run only ever ends between instructions. A run that stops by
request or at its limit leaves the machine paused; a halt or a fault leaves it
halted. No request outlives the run that it ends.
-/

namespace Backplane

/-- What a machine does. -/
inductive RunState where
  /-- It executes instructions. -/
  | running
  /-- It stands between instructions and may go on. -/
  | paused
  /-- It has halted and needs a reset. -/
  | halted
  deriving DecidableEq, Repr, Inhabited

/-- The name of a state. -/
def RunState.name : RunState → String
  | running => "Running"
  | paused => "Paused"
  | halted => "Halted"

/-- A stop request and the state of a machine. -/
structure RunControl where
  /-- Whether a stop is requested. -/
  stop : Bool := false
  /-- What the machine does. -/
  state : RunState := .paused
  deriving DecidableEq, Repr, Inhabited

/-- What comes of one instruction. -/
inductive StepOutcome where
  /-- It was executed and took some cycles. -/
  | retired (cycles : UInt32)
  /-- It halts the processor. -/
  | halted
  /-- The processor cannot go on past a fault. -/
  | fault (fault : Fault)
  /-- The processor broke down while it held the bus. -/
  | crashed
  deriving DecidableEq, Repr

/-- A processor after one instruction. -/
structure Stepped (π σ : Type) where
  /-- The processor. -/
  processor : π
  /-- The bus. -/
  bus : Bus σ
  /-- Whether the instruction asked for a stop. -/
  stop : Bool
  /-- What came of it. -/
  outcome : StepOutcome

/-- The processors whose states are of type `π`, on a bus with devices `σ`. -/
class Processor (π σ : Type) where
  /-- Executes one instruction. -/
  step : π → Bus σ → Stepped π σ

/-- Why a run ended. -/
inductive StopReason where
  /-- A stop was requested. -/
  | stopRequested
  /-- The limit of the run was reached. -/
  | limitReached
  /-- The processor halted. -/
  | halted
  /-- The processor met a fault. -/
  | fault (fault : Fault)
  deriving DecidableEq, Repr

/-- The state of a machine whose run ended. -/
def StopReason.state : StopReason → RunState
  | stopRequested | limitReached => .paused
  | halted | fault _ => .halted

/-- What a run did. -/
structure RunOutcome where
  /-- The number of instructions executed. -/
  steps : UInt64
  /-- The cycles they took. -/
  cycles : UInt64
  /-- Why the run ended. -/
  reason : StopReason
  deriving DecidableEq, Repr

/-- A run in progress. -/
structure Run (π σ : Type) where
  /-- The processor. -/
  processor : π
  /-- The bus. -/
  bus : Bus σ
  /-- The run control. -/
  control : RunControl
  /-- The number of instructions executed so far. -/
  steps : UInt64 := 0
  /-- The cycles they took. -/
  cycles : UInt64 := 0

/-- How a run came to its end. -/
inductive Ending where
  /-- It stopped in good order. -/
  | stopped (reason : StopReason)
  /-- The processor broke down. -/
  | crashed
  deriving DecidableEq, Repr

/-- Whether `steps` instructions use up a limit. -/
def reaches (limit : Option UInt64) (steps : UInt64) : Bool := limit.any fun n => n ≤ steps

namespace Run

variable {π σ : Type} [Processor π σ]

/-- One turn of the loop: ends the run, or executes an instruction. -/
def turn (limit : Option UInt64) (r : Run π σ) : Run π σ × Option Ending :=
  if r.control.stop then (r, some (.stopped .stopRequested))
  else if reaches limit r.steps then (r, some (.stopped .limitReached))
  else
    let s := Processor.step r.processor r.bus
    let control := { r.control with stop := r.control.stop || s.stop }
    let r' : Run π σ :=
      { r with processor := s.processor, bus := s.bus, control := control }
    match s.outcome with
    | .retired cycles =>
      ({ r' with steps := r.steps + 1, cycles := r.cycles + cycles.toUInt64 }, none)
    | .halted => (r', some (.stopped .halted))
    | .fault fault => (r', some (.stopped (.fault fault)))
    | .crashed => ({ r' with processor := r.processor }, some .crashed)

/-- The run after its end: no stop is requested, and the state tells why it
ended. A run that broke down leaves the control as it is. -/
def finish (r : Run π σ) : Ending → Run π σ
  | .stopped reason => { r with control := ⟨false, reason.state⟩ }
  | .crashed => r

/-- Takes turns until the run ends, at most `turns` of them. -/
def loop (limit : Option UInt64) : Nat → Run π σ → Option (Run π σ × Ending)
  | 0, _ => none
  | turns + 1, r =>
    match r.turn limit with
    | (r, some ending) => some (r.finish ending, ending)
    | (r, none) => loop limit turns r

/-- Begins a run. -/
def start (processor : π) (bus : Bus σ) (control : RunControl) : Run π σ where
  processor := processor
  bus := bus
  control := { control with state := .running }

/-- Runs until something stops the processor, at most `turns` turns. With a
limit, one turn more than the limit is always enough. -/
def untilStopped (processor : π) (bus : Bus σ) (control : RunControl) (limit : Option UInt64)
    (turns : Nat) : Option (Run π σ × Ending) :=
  loop limit turns (start processor bus control)

end Run
end Backplane
