import Mathlib
import Backplane.Device.Notice

/-!
# Notices are lost oldest first, and counted

Posting to a full queue drops the oldest notice that waits there, and draining hands out
all that wait. What waits is therefore the end of what was posted since the queue was last
drained (`pending_push`).

`Accounts` is the balance of a queue: a notice that was posted was taken out, waits, or is
lost, and the order is that of posting. The counter of the queue is the number of lost
notices up to the largest one that it can hold. Posting and draining keep the balance, and
`notices_accounted` is the account of every run.
-/

namespace Backplane
namespace NoticeQueue

variable {q : NoticeQueue} {posted taken : List Notice}

/-! ## What waits -/

theorem capacity_push (notice : Notice) : (q.push notice).capacity = q.capacity := by
  unfold push
  split
  · rfl
  · rfl

/-- If the end of a list waits, then the end of the list with one more notice does so when
that is posted. -/
theorem pending_push (waits : q.pending = posted.rtake q.capacity) (notice : Notice) :
    (q.push notice).pending = (posted ++ [notice]).rtake q.capacity := by
  obtain ⟨room, capacity⟩ : ∃ room, q.capacity = room + 1 :=
    Nat.exists_eq_add_one.mpr q.capacity_pos
  have length : q.pending.length = posted.length - (posted.length - q.capacity) := by
    rw [waits, List.rtake, List.length_drop]
  rw [capacity, List.rtake_concat_succ]
  unfold push
  split
  · -- The queue is full, so the list has an older notice than those that may stay.
    rename_i full
    show q.pending.drop 1 ++ [notice] = _
    rw [waits, List.rtake, List.rtake, List.drop_drop]
    congr 2
    omega
  · rename_i space
    show q.pending ++ [notice] = _
    rw [waits, List.rtake, List.rtake]
    congr 2
    omega

/-! ## The balance -/

theorem toNat_countUp (n : UInt64) : (countUp n).toNat = min (n.toNat + 1) (2 ^ 64 - 1) := by
  have lt : n.toNat < 2 ^ 64 := n.toNat_lt
  have next : (n + 1).toNat = (n.toNat + 1) % 2 ^ 64 := UInt64.toNat_add n 1
  unfold countUp
  split
  · rename_i last
    have zero : (n + 1).toNat = 0 := by rw [last]; rfl
    omega
  · rename_i more
    have pos : (n + 1).toNat ≠ 0 := by
      intro zero
      exact more (UInt64.toNat_inj.mp zero)
    omega

/-- Of the notices that were posted, those that were taken out and those that wait are some,
in their order. The others are lost, and counted. -/
structure Accounts (q : NoticeQueue) (posted taken : List Notice) : Prop where
  order : (taken ++ q.pending).Sublist posted
  dropped : q.dropped.toNat = min (posted.length - (taken ++ q.pending).length) (2 ^ 64 - 1)

theorem accounts_withCapacity (requested : ℕ) : (withCapacity requested).Accounts [] [] :=
  ⟨.slnil, rfl⟩

theorem Accounts.push (h : q.Accounts posted taken) (notice : Notice) :
    (q.push notice).Accounts (posted ++ [notice]) taken := by
  have some : (taken ++ q.pending).length ≤ posted.length := h.order.length_le
  have dropped := h.dropped
  unfold NoticeQueue.push
  split
  · rename_i full
    have capacity := q.capacity_pos
    refine ⟨?_, ?_⟩
    · show (taken ++ (q.pending.drop 1 ++ [notice])).Sublist _
      rw [← List.append_assoc]
      have older : (taken ++ q.pending.drop 1).Sublist (taken ++ q.pending) :=
        (List.Sublist.refl taken).append (List.drop_sublist 1 _)
      exact (older.trans h.order).append (.refl _)
    · show (countUp q.dropped).toNat =
        min (_ - (taken ++ (q.pending.drop 1 ++ [notice])).length) _
      rw [toNat_countUp]
      simp only [List.length_append, List.length_drop, List.length_singleton] at some dropped ⊢
      omega
  · refine ⟨?_, ?_⟩
    · show (taken ++ (q.pending ++ [notice])).Sublist _
      rw [← List.append_assoc]
      exact h.order.append (.refl _)
    · show q.dropped.toNat = min (_ - (taken ++ (q.pending ++ [notice])).length) _
      simp only [List.length_append, List.length_singleton] at some dropped ⊢
      omega

/-- What waits is taken out, and nothing is lost. -/
theorem Accounts.drained (h : q.Accounts posted taken) :
    q.drained.Accounts posted (taken ++ q.pending) := by
  have empty : taken ++ q.pending ++ q.drained.pending = taken ++ q.pending := List.append_nil _
  refine ⟨?_, ?_⟩
  · rw [empty]
    exact h.order
  · rw [empty]
    exact h.dropped

/-! ## Runs -/

/-- What is done with a queue. -/
inductive Step where
  /-- A notice is posted. -/
  | push (notice : Notice)
  /-- All notices that wait are taken out. -/
  | drain

/-- A queue and the notices that were taken out of it, after one more step. -/
def step (s : NoticeQueue × List Notice) : Step → NoticeQueue × List Notice
  | .push notice => (s.1.push notice, s.2)
  | .drain => (s.1.drained, s.2 ++ s.1.pending)

/-- The queue after steps in order, and all notices that were taken out of it. -/
def run (q : NoticeQueue) (steps : List Step) : NoticeQueue × List Notice :=
  steps.foldl step (q, [])

/-- The notice that a step posts. -/
def Step.notice? : Step → Option Notice
  | push notice => some notice
  | drain => none

/-- The notices that wait if none is lost, after one more step. -/
def note (waiting : List Notice) : Step → List Notice
  | .push notice => waiting ++ [notice]
  | .drain => []

/-- The notices that were posted since the queue was last drained. -/
def sinceDrain (steps : List Step) : List Notice := steps.foldl note []

theorem run_concat (steps : List Step) (s : Step) :
    q.run (steps ++ [s]) = step (q.run steps) s := List.foldl_concat ..

theorem sinceDrain_concat (steps : List Step) (s : Step) :
    sinceDrain (steps ++ [s]) = note (sinceDrain steps) s := List.foldl_concat ..

theorem capacity_run (steps : List Step) : (q.run steps).1.capacity = q.capacity := by
  induction steps using List.reverseRecOn with
  | nil => rfl
  | append_singleton steps s ih =>
    rw [run_concat]
    cases s with
    | push notice => exact (capacity_push notice).trans ih
    | drain => exact ih

theorem pending_run (empty : q.pending = []) (steps : List Step) :
    (q.run steps).1.pending = (sinceDrain steps).rtake q.capacity := by
  induction steps using List.reverseRecOn with
  | nil => exact empty.trans (List.rtake_nil _).symm
  | append_singleton steps s ih =>
    rw [run_concat, sinceDrain_concat]
    cases s with
    | push notice =>
      rw [← q.capacity_run steps] at ih ⊢
      exact pending_push ih notice
    | drain => exact (List.rtake_nil _).symm

theorem accounts_run (fresh : q.Accounts [] []) (steps : List Step) :
    (q.run steps).1.Accounts (steps.filterMap Step.notice?) (q.run steps).2 := by
  induction steps using List.reverseRecOn with
  | nil => exact fresh
  | append_singleton steps s ih =>
    rw [run_concat, List.filterMap_append]
    cases s with
    | push notice => exact ih.push notice
    | drain =>
      rw [List.filterMap_cons_none rfl, List.filterMap_nil, List.append_nil]
      exact ih.drained

/-- However notices are posted and taken out, the newest of those that were posted since
the queue was last drained wait, in order and as many as it has room for, which is one at
least. No notice is taken out twice or out of order, and as long as the counter has not come
to its end, it counts those that were neither taken out nor wait. -/
theorem notices_accounted (requested : ℕ) (steps : List Step) :
    let posted := steps.filterMap Step.notice?
    let recent := sinceDrain steps
    let q := ((withCapacity requested).run steps).1
    let taken := ((withCapacity requested).run steps).2
    q.capacity = max requested 1 ∧
    q.pending = recent.rtake (min q.capacity recent.length) ∧
    (taken ++ q.pending).Sublist posted ∧
    (q.dropped.toNat < 2 ^ 64 - 1 →
      posted.length = taken.length + q.pending.length + q.dropped.toNat) := by
  intro posted recent q taken
  have capacity : q.capacity = max requested 1 := capacity_run steps
  have accounts : q.Accounts posted taken := accounts_run (accounts_withCapacity requested) steps
  refine ⟨capacity, ?_, accounts.order, ?_⟩
  · have waits : q.pending = recent.rtake q.capacity := by
      rw [capacity]
      exact pending_run rfl steps
    rw [waits, List.rtake, List.rtake]
    congr 1
    omega
  · intro exact
    have some := accounts.order.length_le
    have dropped := accounts.dropped
    rw [List.length_append] at some dropped
    omega

/-- A queue without room for more than one notice loses three of six. -/
theorem notices_accounted_cramped :
    let notice (cycle : UInt64) : Notice := ⟨3, cycle, .dataChanged 0⟩
    let steps : List Step := [.push (notice 1), .push (notice 2), .drain, .push (notice 3),
      .push (notice 4), .drain, .drain, .push (notice 5), .push (notice 6)]
    let q := ((withCapacity 0).run steps).1
    let taken := ((withCapacity 0).run steps).2
    q.dropped.toNat < 2 ^ 64 - 1 ∧ 6 = taken.length + q.pending.length + q.dropped.toNat ∧
      taken.map Notice.cycle = [2, 4] ∧ q.pending.map Notice.cycle = [6] := by
  intro notice steps q taken
  have few : q.dropped.toNat < 2 ^ 64 - 1 := by decide
  obtain ⟨-, waits, -, balance⟩ := notices_accounted 0 steps
  refine ⟨few, balance few, by decide, ?_⟩
  rw [waits]
  decide

end NoticeQueue
end Backplane
