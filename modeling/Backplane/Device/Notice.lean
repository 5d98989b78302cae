/-!
# Notices

Devices post notices of what changed while they serve an access. A bounded
queue keeps them in order for a consumer; when it is full, the oldest notice is
dropped and counted.
-/

namespace Backplane

/-- What a device has to tell. -/
inductive NoticeKind where
  /-- The data at an offset changed. -/
  | dataChanged (offset : UInt32)
  /-- The device entered a mode. -/
  | modeChanged (mode : UInt8)
  deriving DecidableEq, Repr, Inhabited

/-- A notice of a device. -/
structure Notice where
  /-- The device id of the page that led to the device. -/
  deviceId : UInt32
  /-- The time of the access. -/
  cycle : UInt64
  /-- What happened. -/
  kind : NoticeKind
  deriving DecidableEq, Repr, Inhabited

/-- A bounded queue of notices. -/
structure NoticeQueue where
  /-- The number of notices it holds at most. -/
  capacity : Nat
  capacity_pos : 0 < capacity
  /-- The notices it holds, oldest first. -/
  pending : List Notice
  /-- How many notices were dropped, up to the largest 64-bit number. -/
  dropped : UInt64
  deriving DecidableEq

namespace NoticeQueue

/-- An empty queue of this capacity, which counts as one at least. -/
def withCapacity (capacity : Nat) : NoticeQueue :=
  ⟨max capacity 1, by omega, [], 0⟩

/-- The capacity of a queue of which nothing else is said. -/
def standardCapacity : Nat := 64

instance : Inhabited NoticeQueue := ⟨withCapacity standardCapacity⟩

/-- The successor of `n`, or `n` if there is none. -/
def countUp (n : UInt64) : UInt64 := if n + 1 = 0 then n else n + 1

variable (q : NoticeQueue)

/-- Posts a notice; a full queue drops its oldest one. -/
def push (n : Notice) : NoticeQueue :=
  if q.pending.length = q.capacity then
    { q with pending := q.pending.drop 1 ++ [n], dropped := countUp q.dropped }
  else
    { q with pending := q.pending ++ [n] }

/-- Posts notices in order. -/
def pushAll (ns : List Notice) : NoticeQueue := ns.foldl push q

/-- The queue after all its notices were taken out. -/
def drained : NoticeQueue := { q with pending := [] }

/-- The number of notices that wait. -/
def size : Nat := q.pending.length

/-- Whether no notice waits. -/
def isEmpty : Bool := q.pending.isEmpty

end NoticeQueue
end Backplane
