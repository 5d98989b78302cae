import Backplane.Run.Control

/-!
# A toy processor

A program counter and an accumulator, enough to drive a bus. An instruction is
an opcode with its operands behind it; addresses have sixteen bits, the low byte
first.

| opcode | does | cycles |
|---|---|---|
| 00 | halts | |
| 01 | nothing | 2 |
| 02 lo hi | loads the accumulator | 4 |
| 03 lo hi | stores the accumulator | 4 |
| 04 n | sets the accumulator | 2 |
| 05 lo hi | jumps | 3 |
| 06 | asks for a stop | 1 |
| 07 | breaks down | |
| 08 | adds one to the accumulator | 2 |

Any other opcode is copied to the accumulator and takes as many cycles as can be
counted.
-/

namespace Backplane

/-- The state of the toy processor. -/
structure Toy where
  /-- The address of the next instruction. -/
  pc : UInt32 := 0
  /-- The accumulator. -/
  a : UInt8 := 0
  deriving DecidableEq, Repr, Inhabited

namespace Toy

variable {σ : Type} [DeviceModel σ]

/-- Fetches the next byte of an instruction. -/
def fetch (t : Toy) (b : Bus σ) : Toy × Bus σ × Except Fault UInt8 :=
  match b.read (.fetch t.pc) with
  | (b, .ok value) => ({ t with pc := t.pc + 1 }, b, .ok value.toUInt8)
  | (b, .error fault) => (t, b, .error fault)

/-- Fetches an address of sixteen bits. -/
def fetchAddress (t : Toy) (b : Bus σ) : Toy × Bus σ × Except Fault UInt32 :=
  match t.fetch b with
  | (t, b, .error fault) => (t, b, .error fault)
  | (t, b, .ok low) =>
    match t.fetch b with
    | (t, b, .error fault) => (t, b, .error fault)
    | (t, b, .ok high) => (t, b, .ok (low.toUInt32 ||| (high.toUInt32 <<< 8)))

/-- The end of an instruction that took some cycles. -/
def retire (t : Toy) (b : Bus σ) (cycles : UInt32) : Stepped Toy σ := ⟨t, b, false, .retired cycles⟩

/-- Goes on with an operand, unless its fetch faulted. -/
def withOperand {α : Type} (fetched : Toy × Bus σ × Except Fault α)
    (f : Toy → Bus σ → α → Stepped Toy σ) : Stepped Toy σ :=
  match fetched with
  | (t, b, .ok operand) => f t b operand
  | (t, b, .error fault) => ⟨t, b, false, .fault fault⟩

/-- Executes an instruction whose opcode was fetched. -/
def execute (t : Toy) (b : Bus σ) (opcode : UInt8) : Stepped Toy σ :=
  match opcode.toNat with
  | 0 => ⟨t, b, false, .halted⟩
  | 1 => t.retire b 2
  | 2 => withOperand (t.fetchAddress b) fun t b address =>
    let (b, value) := b.readCpuByte address
    { t with a := value }.retire b 4
  | 3 => withOperand (t.fetchAddress b) fun t b address =>
    t.retire (b.writeCpuByte address t.a) 4
  | 4 => withOperand (t.fetch b) fun t b value => { t with a := value }.retire b 2
  | 5 => withOperand (t.fetchAddress b) fun t b address => { t with pc := address }.retire b 3
  | 6 => ⟨t, b, true, .retired 1⟩
  | 7 => ⟨t, b, false, .crashed⟩
  | 8 => { t with a := t.a + 1 }.retire b 2
  | _ => { t with a := opcode }.retire b 0xFFFFFFFF

instance : Processor Toy σ where
  step t b := withOperand (t.fetch b) execute

end Toy
end Backplane
