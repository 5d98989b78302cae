import Backplane.Listing.Dump

/-!
# Transactions and transfers

What a user asks of a bus is a `Transfer`, through one of its entry points. A transfer is
cut into transactions, each of which is served as a whole; its request alone says into
which.
-/

namespace Backplane

/-- An access that is served as a whole. -/
inductive Transaction where
  /-- A read. -/
  | read (a : Access)
  /-- A write. -/
  | write (a : Access)
  deriving DecidableEq

namespace Transaction

/-- The access that is made. -/
def access : Transaction → Access
  | read a | write a => a

/-- Reads of `count` bytes from the address of `a`, one for each byte. -/
def reads (a : Access) (count : Nat) : List Transaction :=
  (List.range count).map fun lane => read (a.lane lane)

/-- Writes of `bytes` from the address of `a`, one for each byte. -/
def writes (a : Access) (bytes : List UInt8) : List Transaction :=
  bytes.zipIdx.map fun byte => write { a.lane byte.2 with value := byte.1.toUInt32 }

end Transaction

/-- A request to transfer bytes, through one of the entry points of a bus. -/
inductive Transfer where
  /-- `Bus.read` -/
  | read (a : Access)
  /-- `Bus.write` -/
  | write (a : Access)
  /-- `Bus.readMany` -/
  | readMany (a : Access) (count : Nat)
  /-- `Bus.writeMany` -/
  | writeMany (a : Access) (bytes : List UInt8)
  /-- `Bus.readCpuByte` -/
  | readCpuByte (address : UInt32)
  /-- `Bus.writeCpuByte` -/
  | writeCpuByte (address : UInt32) (value : UInt8)
  /-- `Bus.readCpu` -/
  | readCpu (address : UInt32) (bits : UInt8)
  /-- `Bus.writeCpu` -/
  | writeCpu (address : UInt32) (bits : UInt8) (value : UInt32)
  /-- `Bus.peekByte` -/
  | peekByte (address : UInt32)
  /-- `Bus.pokeByte` -/
  | pokeByte (address : UInt32) (value : UInt8)
  /-- `Dump.capture` -/
  | capture (start : UInt32) (length : Nat) (intent : Intent)

namespace Transfer

/-- The transactions that a read is made of. -/
def transactionsOfRead (a : Access) : List Transaction :=
  match a.mode with
  | .atomic => [.read a]
  | .decomposed => Transaction.reads a a.width.bytes

/-- The transactions that a write is made of. -/
def transactionsOfWrite (a : Access) : List Transaction :=
  match a.mode with
  | .atomic => [.write a]
  | .decomposed =>
    Transaction.writes a ((List.range a.width.bytes).map (Access.valueByte a.value))

/-- The transactions that a transfer is made of, in order. -/
def transactions : Transfer → List Transaction
  | read a => transactionsOfRead a
  | write a => transactionsOfWrite a
  | readMany a count => Transaction.reads a count
  | writeMany a bytes => Transaction.writes a bytes
  | readCpuByte address => [.read (.read address)]
  | writeCpuByte address value => [.write (.write address value)]
  | readCpu address bits =>
    match Width.ofBits bits with
    | .error _ => []
    | .ok width =>
      Transaction.reads
        { address := address, intent := .dataRead, width := width, mode := .decomposed }
        width.bytes
  | writeCpu address bits value =>
    match Width.ofBits bits with
    | .error _ => []
    | .ok width =>
      transactionsOfWrite
        { address := address, intent := .dataWrite, width := width, mode := .decomposed
          value := value &&& width.mask }
  | peekByte address => [.read (.debugRead address)]
  | pokeByte address value => [.write (.debugWrite address value)]
  | capture start length intent => Transaction.reads (Dump.access start intent) length

end Transfer

/-- What the caller of a transfer is told. -/
inductive Reply where
  /-- The value that was read, or a fault. -/
  | value (answer : Except Fault UInt32)
  /-- The byte that was read, or a fault. -/
  | byte (answer : Except Fault UInt8)
  /-- That the value was stored, or a fault. -/
  | stored (answer : Except Fault Unit)
  /-- An answer to the read of each byte. -/
  | bytes (answers : List (Except Fault UInt8))
  /-- An answer to the write of each byte. -/
  | results (answers : List (Except Fault Unit))
  /-- A byte, open bus for a fault. -/
  | openByte (byte : UInt8)
  /-- A value with open bus for faults, unless there is no such width. -/
  | openValue (answer : Except BusError UInt32)
  /-- Nothing, unless there is no such width. -/
  | done (answer : Except BusError Unit)

namespace Bus

variable {σ : Type} [DeviceModel σ] (b : Bus σ)

/-- The bus after a transaction. -/
def transact : Transaction → Bus σ
  | .read a => (b.readAtomic a).1
  | .write a => (b.writeAtomic a).1

/-- The bus after a transfer. -/
def transfer : Transfer → Bus σ
  | .read a => (b.read a).1
  | .write a => (b.write a).1
  | .readMany a count => (b.readMany a count).1
  | .writeMany a bytes => (b.writeMany a bytes).1
  | .readCpuByte address => (b.readCpuByte address).1
  | .writeCpuByte address value => b.writeCpuByte address value
  | .readCpu address bits => (b.readCpu address bits).1
  | .writeCpu address bits value => (b.writeCpu address bits value).1
  | .peekByte address => (b.peekByte address).1
  | .pokeByte address value => (b.pokeByte address value).1
  | .capture start length intent => (Dump.capture b start length intent).1

/-- What the bus tells the caller of a transfer. -/
def reply : Transfer → Reply
  | .read a => .value (b.read a).2
  | .write a => .stored (b.write a).2
  | .readMany a count => .bytes (b.readMany a count).2.bytes
  | .writeMany a bytes => .results (b.writeMany a bytes).2.results
  | .readCpuByte address => .openByte (b.readCpuByte address).2
  | .writeCpuByte _ _ => .done (.ok ())
  | .readCpu address bits => .openValue (b.readCpu address bits).2
  | .writeCpu address bits value => .done (b.writeCpu address bits value).2
  | .peekByte address => .byte (b.peekByte address).2
  | .pokeByte address value => .stored (b.pokeByte address value).2
  | .capture start length intent => .bytes (Dump.capture b start length intent).2.bytes

end Bus
end Backplane
