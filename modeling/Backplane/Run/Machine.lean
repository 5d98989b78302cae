import Backplane.Device.Registry
import Backplane.Run.Control

/-!
# Machines

A machine is a bus, a device registry and a processor that a worker can run
beside its controller. The controller starts, awaits and stops runs; the worker
executes them in small steps, so that either may act between any two of them.
At every moment the processor belongs to the controller or to the worker.

A worker that breaks down takes its processor with it and spoils the bus.
-/

namespace Backplane

/-- Why a machine refused. -/
inductive MachineError where
  /-- A run is in progress. -/
  | alreadyRunning
  /-- The machine has halted and was not reset. -/
  | halted
  /-- The bus was spoiled by a worker that broke down. -/
  | busPoisoned
  /-- The worker broke down, and its processor is lost. -/
  | workerPanicked
  deriving DecidableEq, Repr

/-- The text of an error. -/
def MachineError.message : MachineError → String
  | alreadyRunning => "machine is already running"
  | halted => "machine is halted; reset before resuming"
  | busPoisoned => "bus lock poisoned by a panicked worker"
  | workerPanicked => "run-loop worker panicked"

/-- Where a worker stands. -/
inductive Phase where
  /-- It was started. -/
  | starting
  /-- It takes turns. -/
  | looping
  /-- It has ended its run and is about to take back any stop request. -/
  | clearing (reason : StopReason)
  /-- It has taken back the stop request and is about to tell the state. -/
  | publishing (reason : StopReason)
  /-- It has ended. -/
  | finished (reason : StopReason)
  /-- It broke down. -/
  | crashed
  deriving DecidableEq, Repr

/-- A worker with its processor. -/
structure Worker (π : Type) where
  /-- The processor. -/
  processor : π
  /-- The limit of the run. -/
  limit : Option UInt64
  /-- The number of instructions executed so far. -/
  steps : UInt64 := 0
  /-- The cycles they took. -/
  cycles : UInt64 := 0
  /-- Where the worker stands. -/
  phase : Phase := .starting

/-- A bus, its devices and a processor. -/
structure Machine (π σ : Type) where
  /-- The bus. -/
  bus : Bus σ
  /-- Whether the bus was spoiled. -/
  poisoned : Bool := false
  /-- The devices. -/
  devices : Registry := {}
  /-- The run control that controller and worker share. -/
  control : RunControl := {}
  /-- The processor, while the controller has it. -/
  processor : Option π
  /-- The worker, until it is awaited. -/
  worker : Option (Worker π) := none
  /-- What the run did that was awaited last. -/
  lastOutcome : Option RunOutcome := none

namespace Machine

variable {π σ : Type}

/-- Whether a worker is there that has not come to its end. -/
def isBusy (m : Machine π σ) : Bool :=
  match m.worker with
  | none => false
  | some w =>
    match w.phase with
    | .finished _ | .crashed => false
    | .starting | .looping | .clearing _ | .publishing _ => true

/-! ## The worker -/

section Worker

variable [Processor π σ]

/-- One turn of the worker's loop. A worker that finds the bus spoiled halts. -/
def turn (m : Machine π σ) (w : Worker π) : Machine π σ :=
  if m.control.stop then { m with worker := some { w with phase := .clearing .stopRequested } }
  else if reaches w.limit w.steps then
    { m with worker := some { w with phase := .clearing .limitReached } }
  else if m.poisoned then { m with worker := some { w with phase := .clearing .halted } }
  else
    let s := Processor.step w.processor m.bus
    let m := { m with
      bus := s.bus
      control := { m.control with stop := m.control.stop || s.stop } }
    match s.outcome with
    | .retired cycles =>
      { m with worker := some { w with
          processor := s.processor
          steps := w.steps + 1
          cycles := w.cycles + cycles.toUInt64 } }
    | .halted =>
      { m with worker := some { w with processor := s.processor, phase := .clearing .halted } }
    | .fault fault =>
      { m with worker := some { w with
          processor := s.processor
          phase := .clearing (.fault fault) } }
    | .crashed => { m with poisoned := true, worker := some { w with phase := .crashed } }

/-- One small step of the worker; nothing happens once it has ended. -/
def advance (m : Machine π σ) : Machine π σ :=
  match m.worker with
  | none => m
  | some w =>
    match w.phase with
    | .starting =>
      { m with
        control := { m.control with state := .running }
        worker := some { w with phase := .looping } }
    | .looping => m.turn w
    | .clearing reason =>
      { m with
        control := { m.control with stop := false }
        worker := some { w with phase := .publishing reason } }
    | .publishing reason =>
      { m with
        control := { m.control with state := reason.state }
        worker := some { w with phase := .finished reason } }
    | .finished _ | .crashed => m

/-- The machine once the worker has ended, after at most `steps` small steps. -/
def settle : Nat → Machine π σ → Machine π σ
  | 0, m => m
  | steps + 1, m => if m.isBusy then settle steps m.advance else m

end Worker

/-! ## The controller -/

/-- Asks the worker to stop before its next instruction. -/
def requestStop (m : Machine π σ) : Machine π σ :=
  { m with control := { m.control with stop := true } }

/-- Takes over from a worker that has ended, and tells what it did. -/
def join (m : Machine π σ) : Machine π σ × Except MachineError (Option RunOutcome) :=
  match m.worker with
  | none => (m, .ok none)
  | some w =>
    match w.phase with
    | .finished reason =>
      let outcome : RunOutcome := ⟨w.steps, w.cycles, reason⟩
      ({ m with worker := none, processor := some w.processor, lastOutcome := some outcome },
        .ok (some outcome))
    | .crashed =>
      ({ m with worker := none, control := { m.control with state := .halted } },
        .error .workerPanicked)
    | .starting | .looping | .clearing _ | .publishing _ => (m, .error .alreadyRunning)

/-- Hands the processor to a new worker, which has not begun yet. -/
def launch (m : Machine π σ) (limit : Option UInt64) : Machine π σ × Except MachineError Unit :=
  if m.control.state = .halted then (m, .error .halted)
  else match m.processor with
    | none => (m, .error .alreadyRunning)
    | some processor =>
      ({ m with
          processor := none
          control := ⟨false, .running⟩
          worker := some { processor := processor, limit := limit } }, .ok ())

/-- Clears a halt, so that the machine is paused. -/
def resetHalt (m : Machine π σ) : Machine π σ :=
  if m.control.state = .halted then { m with control := ⟨false, .paused⟩ } else m

variable [Processor π σ]

/-- Waits for the worker to end, at most `steps` of its small steps. -/
def wait (steps : Nat) (m : Machine π σ) : Machine π σ × Except MachineError (Option RunOutcome) :=
  (m.settle steps).join

/-- Starts a run. A worker that has stopped by itself is awaited first. -/
def spawn (steps : Nat) (m : Machine π σ) (limit : Option UInt64) :
    Machine π σ × Except MachineError Unit :=
  if m.worker.isSome && m.control.state ≠ .running then
    match m.wait steps with
    | (m, .error e) => (m, .error e)
    | (m, .ok _) => m.launch limit
  else m.launch limit

/-- Stops the run between two instructions. -/
def pause (steps : Nat) (m : Machine π σ) :
    Machine π σ × Except MachineError (Option RunOutcome) :=
  if m.worker.isNone then (m, .ok none) else m.requestStop.wait steps

/-- Stops the run and keeps the machine from running until it is reset. -/
def halt (steps : Nat) (m : Machine π σ) :
    Machine π σ × Except MachineError (Option RunOutcome) :=
  match m.pause steps with
  | (m, .error e) => (m, .error e)
  | (m, .ok outcome) => ({ m with control := { m.control with state := .halted } }, .ok outcome)

/-- Acts on the bus, unless it is spoiled. -/
def withBus {α : Type} (m : Machine π σ) (f : Bus σ → Bus σ × α) :
    Machine π σ × Except MachineError α :=
  if m.poisoned then (m, .error .busPoisoned)
  else
    let (bus, answer) := f m.bus
    ({ m with bus := bus }, .ok answer)

end Machine
end Backplane
