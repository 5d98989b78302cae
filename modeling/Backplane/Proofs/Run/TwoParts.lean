import Mathlib
import Backplane.Proofs.Run.Halting
import Backplane.Proofs.Run.Turns

/-!
# Runs in two parts

A run that stopped at its limit can go on from there. What a turn does depends on the stop
request, on whether the limit is reached, and on the processor and the bus; so two runs with the
same of these, of which one has counted more and may count as much more, take the same turns
(`loop_later`). And a run that reaches its limit has taken one turn for each instruction it could
still execute, all of which a run with a greater limit takes as well (`loop_of_limitReached`).
A stop that is asked for by the last of these instructions ends both, as it is looked for before
the limit is.

The instructions that a run executes are told by the cycles they take (`spent`); the counts of
the run are exact as long as these fit in 64 bits.

The main statement is `runs_compose`.
-/

namespace Backplane.Run

variable {π σ : Type} [Processor π σ] {limit : Option UInt64} {n m c : UInt64} {turns k : Nat}
  {r r' : Run π σ} {ending : Ending}

/-! ## Loops -/

/-- The cycles of the instructions that at most `turns` turns execute, in order. -/
def spent (limit : Option UInt64) : Nat → Run π σ → List UInt32
  | 0, _ => []
  | turns + 1, r =>
    match r.turn limit with
    | (_, some _) => []
    | (r', none) => r.cost :: spent limit turns r'

theorem spent_ends (h : r.turn limit = (r', some ending)) (turns : Nat) :
    spent limit turns r = [] := by
  cases turns with
  | zero => rfl
  | succ turns => rw [spent, h]

theorem spent_next (h : r.turn limit = (r', none)) (turns : Nat) :
    spent limit (turns + 1) r = r.cost :: spent limit turns r' := by
  rw [spent, h]

/-- A run with a limit ends one turn after those that it may still execute instructions in. -/
theorem exists_loop (left : r.steps.toNat + k = n.toNat) :
    ∃ fin ending, ∀ turns > k, loop (some n) turns r = some (fin, ending) := by
  induction k generalizing r with
  | zero =>
    rcases h : r.turn (some n) with ⟨r', _ | ending⟩
    · obtain ⟨room, -⟩ := toNat_steps_next h
      omega
    · exact ⟨_, ending, fun turns more => loop_ends h more⟩
  | succ k ih =>
    rcases h : r.turn (some n) with ⟨r', _ | ending⟩
    · obtain ⟨room, steps⟩ := toNat_steps_next h
      obtain ⟨fin, ending, ends⟩ := ih (r := r') (by omega)
      refine ⟨fin, ending, fun turns more => ?_⟩
      obtain ⟨turns, rfl⟩ := Nat.exists_eq_add_of_lt more
      rw [loop_next h]
      exact ends _ (by omega)
    · exact ⟨_, ending, fun turns more => loop_ends h (Nat.zero_lt_of_lt more)⟩

omit [Processor π σ] in
theorem finish_counts (r : Run π σ) (ending : Ending) :
    (r.finish ending).steps = r.steps ∧ (r.finish ending).cycles = r.cycles := by
  cases ending <;> exact ⟨rfl, rfl⟩

/-- What a run leaves behind, it left at its end. -/
theorem exists_finish {fin : Run π σ} (h : loop limit turns r = some (fin, ending)) :
    ∃ last : Run π σ, fin = last.finish ending := by
  induction turns generalizing r with
  | zero => cases h
  | succ turns ih =>
    rcases turned : r.turn limit with ⟨r', _ | ending'⟩
    · exact ih (loop_next turned turns ▸ h)
    · rw [loop_ends turned (Nat.succ_pos _)] at h
      cases h
      exact ⟨r', rfl⟩

/-- A run within its limit stays within it, and counts what it executes. -/
theorem loop_steps {fin : Run π σ} (h : loop (some n) turns r = some (fin, ending))
    (le : r.steps ≤ n) :
    fin.steps ≤ n ∧ fin.steps.toNat = r.steps.toNat + (spent (some n) turns r).length := by
  induction turns generalizing r with
  | zero => cases h
  | succ turns ih =>
    rcases turned : r.turn (some n) with ⟨r', _ | ending'⟩
    · obtain ⟨room, steps⟩ := toNat_steps_next turned
      rw [loop_next turned] at h
      rw [spent_next turned, List.length_cons]
      obtain ⟨within, counted⟩ := ih h (UInt64.le_iff_toNat_le.mpr (by omega))
      exact ⟨within, by omega⟩
    · rw [loop_ends turned (Nat.succ_pos _)] at h
      cases h
      rw [spent_ends turned, (finish_counts r' ending).1, (turn_ends turned).1]
      exact ⟨le, rfl⟩

/-- The cycles of instructions, all in all. -/
def total (costs : List UInt32) : Nat := (costs.map UInt32.toNat).sum

theorem loop_cycles {fin : Run π σ} (h : loop limit turns r = some (fin, ending)) :
    fin.cycles = r.cycles + UInt64.ofNat (total (spent limit turns r)) := by
  induction turns generalizing r with
  | zero => cases h
  | succ turns ih =>
    rcases turned : r.turn limit with ⟨r', _ | ending'⟩
    · obtain ⟨-, -, next⟩ := turn_next turned
      rw [loop_next turned] at h
      rw [ih h, spent_next turned, (execute_next next).2.1, total, total, List.map_cons,
        List.sum_cons, UInt64.ofNat_add, UInt64.add_assoc, UInt64.ofNat_uInt32ToNat]
    · rw [loop_ends turned (Nat.succ_pos _)] at h
      cases h
      rw [spent_ends turned, (finish_counts r' ending).2, (turn_ends turned).2.1]
      exact (UInt64.add_zero _).symm

/-- A run with a limit that is reached would go on from there with a greater limit. -/
theorem loop_of_limitReached {fin : Run π σ} (left : r.steps.toNat + k = n.toNat)
    (ended : loop (some n) (k + 1) r = some (fin, .stopped .limitReached)) :
    ∃ mid : Run π σ, fin = mid.finish (.stopped .limitReached) ∧ mid.steps = n ∧
      mid.control = ⟨false, r.control.state⟩ ∧ ∀ n' ≥ n, ∀ turns,
        loop (some n') (k + turns) r = loop (some n') turns mid ∧
        spent (some n') (k + turns) r =
          spent (some n) (k + 1) r ++ spent (some n') turns mid := by
  induction k generalizing r with
  | zero =>
    rcases turned : r.turn (some n) with ⟨r', _ | ending⟩
    · obtain ⟨room, -⟩ := toNat_steps_next turned
      omega
    · rw [loop_ends turned (Nat.succ_pos _)] at ended
      cases ended
      obtain ⟨rfl, stop, -⟩ := (turn_ends turned).2.2 rfl
      refine ⟨r', rfl, UInt64.toNat_inj.mp left, by rw [← stop], fun n' _ turns => ?_⟩
      rw [Nat.zero_add, spent_ends turned]
      exact ⟨rfl, rfl⟩
  | succ k ih =>
    rcases turned : r.turn (some n) with ⟨r', _ | ending⟩
    · obtain ⟨-, steps⟩ := toNat_steps_next turned
      rw [loop_next turned] at ended
      obtain ⟨mid, rfl, mid_steps, control, on⟩ := ih (by omega) ended
      obtain ⟨-, -, next⟩ := turn_next turned
      rw [(execute_next next).2.2] at control
      refine ⟨mid, rfl, mid_steps, control, fun n' le turns => ?_⟩
      have turned' := turn_mono turned le
      obtain ⟨same, costs⟩ := on n' le turns
      rw [Nat.succ_add, loop_next turned', spent_next turned', spent_next turned, costs]
      exact ⟨same, rfl⟩
    · rw [loop_ends turned (Nat.succ_pos _)] at ended
      cases ended
      obtain ⟨-, -, reached⟩ := (turn_ends turned).2.2 rfl
      rw [reaches_some, decide_eq_true_iff, UInt64.le_iff_toNat_le] at reached
      omega

/-! ## Counts -/

/-- The run with more counted before. -/
def later (n c : UInt64) (r : Run π σ) : Run π σ :=
  { r with steps := n + r.steps, cycles := c + r.cycles }

theorem execute_later (n c : UInt64) (r : Run π σ) :
    (r.later n c).execute = ((r.execute).1.later n c, r.execute.2) := by
  unfold execute later
  dsimp only
  cases (Processor.step r.processor r.bus).outcome with
  | retired cycles =>
    dsimp only
    rw [UInt64.add_assoc, UInt64.add_assoc]
  | halted | fault | crashed => rfl

/-- If the limit is put up by as much as is counted before, the turn is the same. -/
theorem turn_later (fits : n.toNat + m.toNat < 2 ^ 64) (within : r.steps ≤ m) (c : UInt64) :
    (r.later n c).turn (some (n + m)) =
      ((r.turn (some m)).1.later n c, (r.turn (some m)).2) := by
  have reached : reaches (some (n + m)) (r.later n c).steps = reaches (some m) r.steps := by
    have within := UInt64.le_iff_toNat_le.mp within
    change decide (n + m ≤ n + r.steps) = decide (m ≤ r.steps)
    rw [decide_eq_decide, UInt64.le_iff_toNat_le, UInt64.le_iff_toNat_le, UInt64.toNat_add,
      UInt64.toNat_add, Nat.mod_eq_of_lt fits, Nat.mod_eq_of_lt (by omega)]
    omega
  cases stop : r.control.stop with
  | true =>
    rw [turn_of_stop (r := r.later n c) stop, turn_of_stop stop]
  | false =>
    cases room : reaches (some m) r.steps with
    | true =>
      rw [turn_of_reaches (r := r.later n c) stop (reached.trans room), turn_of_reaches stop room]
    | false =>
      rw [turn_of_room (r := r.later n c) stop (reached.trans room), turn_of_room stop room,
        execute_later]

theorem loop_later (fits : n.toNat + m.toNat < 2 ^ 64) (within : r.steps ≤ m) (c : UInt64)
    (turns : Nat) :
    loop (some (n + m)) turns (r.later n c) =
        (loop (some m) turns r).map (fun last => (last.1.later n c, last.2)) ∧
      spent (some (n + m)) turns (r.later n c) = spent (some m) turns r := by
  induction turns generalizing r with
  | zero => exact ⟨rfl, rfl⟩
  | succ turns ih =>
    have same := turn_later fits within c
    rcases turned : r.turn (some m) with ⟨r', _ | ending⟩
    · rw [turned] at same
      obtain ⟨room, steps⟩ := toNat_steps_next turned
      obtain ⟨ends, costs⟩ := ih (r := r') (UInt64.le_iff_toNat_le.mpr (by omega))
      rw [loop_next same, loop_next turned, spent_next same, spent_next turned, costs]
      exact ⟨ends, rfl⟩
    · rw [turned] at same
      rw [loop_ends same (Nat.succ_pos _), loop_ends turned (Nat.succ_pos _), spent_ends same,
        spent_ends turned]
      refine ⟨?_, rfl⟩
      cases ending <;> rfl

/-! ## Runs -/

/-- The run with a limit ends after at most as many turns as the limit and one more, however many
it may take. -/
def EndsAs (p : π) (b : Bus σ) (control : RunControl) (n : UInt64) (fin : Run π σ)
    (ending : Ending) : Prop :=
  ∀ turns > n.toNat, untilStopped p b control (some n) turns = some (fin, ending)

/-- The cycles of the instructions that the run with a limit executes, in order. -/
def costs (p : π) (b : Bus σ) (control : RunControl) (n : UInt64) : List UInt32 :=
  spent (some n) (n.toNat + 1) (start p b control)

variable {p : π} {b : Bus σ} {control : RunControl} {fin : Run π σ}

theorem exists_endsAs (p : π) (b : Bus σ) (control : RunControl) (n : UInt64) :
    ∃ fin ending, EndsAs p b control n fin ending :=
  exists_loop (r := start p b control) (Nat.zero_add _)

namespace EndsAs

/-- A run with a limit executes as many instructions as it counts, and no more than its limit. -/
theorem steps (h : EndsAs p b control n fin ending) :
    fin.steps ≤ n ∧ fin.steps.toNat = (costs p b control n).length := by
  obtain ⟨within, counted⟩ := loop_steps (h _ (Nat.lt_succ_self _)) UInt64.zero_le
  exact ⟨within, counted.trans (Nat.zero_add _)⟩

theorem cycles (h : EndsAs p b control n fin ending)
    (fits : total (costs p b control n) < 2 ^ 64) :
    fin.cycles.toNat = total (costs p b control n) := by
  rw [loop_cycles (h _ (Nat.lt_succ_self _)), start, UInt64.zero_add]
  exact Nat.mod_eq_of_lt fits

/-- What a run that stopped in good order leaves behind in the control. -/
theorem control_eq {reason : StopReason} (h : EndsAs p b control n fin (.stopped reason)) :
    fin.control = ⟨false, reason.state⟩ := by
  obtain ⟨last, rfl⟩ := exists_finish (h _ (Nat.lt_succ_self _))
  rfl

/-- After a run that reached its limit, a run that goes on from there ends as a run with both
limits does, and the two execute what that does. -/
theorem goOn {first second : Run π σ} {last : Ending} (fits : n.toNat + m.toNat < 2 ^ 64)
    (h : EndsAs p b control n first (.stopped .limitReached))
    (h' : EndsAs first.processor first.bus first.control m second last) :
    EndsAs p b control (n + m) (second.later first.steps first.cycles) last ∧
      costs p b control (n + m) =
        costs p b control n ++ costs first.processor first.bus first.control m := by
  have sum : (n + m).toNat = n.toNat + m.toNat := by
    rw [UInt64.toNat_add]
    exact Nat.mod_eq_of_lt fits
  have le : n ≤ n + m := by
    rw [UInt64.le_iff_toNat_le, sum]
    exact Nat.le_add_right _ _
  obtain ⟨mid, rfl, steps, flags, on⟩ :=
    loop_of_limitReached (r := start p b control) (Nat.zero_add _) (h _ (Nat.lt_succ_self _))
  obtain ⟨processor, bus, flags', n', c⟩ := mid
  obtain rfl : n' = n := steps
  obtain rfl : flags' = ⟨false, .running⟩ := flags
  -- The long run is at the limit of the first where the second run starts, but for its counts.
  have here : (⟨processor, bus, ⟨false, .running⟩, n', c⟩ : Run π σ) =
      (start processor bus ⟨false, .paused⟩).later n' c := by
    simp only [start, later, UInt64.add_zero]
  have goes (turns : Nat) := loop_later (r := start processor bus ⟨false, .paused⟩) fits
    UInt64.zero_le c turns
  refine ⟨fun turns more => ?_, ?_⟩
  · rw [sum] at more
    obtain ⟨rest, rfl⟩ := Nat.exists_eq_add_of_le (Nat.le_of_lt (Nat.lt_of_le_of_lt
      (Nat.le_add_right _ _) more))
    have ends : loop (some m) rest (start processor bus ⟨false, .paused⟩) = some (second, last) :=
      h' rest (by omega)
    calc untilStopped p b control (some (n' + m)) (n'.toNat + rest)
      _ = loop (some (n' + m)) rest ⟨processor, bus, ⟨false, .running⟩, n', c⟩ := (on _ le rest).1
      _ = _ := here ▸ (goes rest).1
      _ = some (second.later n' c, last) := by rw [ends, Option.map_some]
  · rw [costs, sum, Nat.add_assoc, (on _ le _).2, here, (goes _).2]
    rfl

end EndsAs

/-- Whatever processor is run on whatever bus, from whatever control, the run with the limit `n`
ends, after at most `n` instructions. No stop request is left, and the machine is paused or has
halted as the reason tells. If the limit is what ended the run, then a run with the limit `m`
that goes on from there ends as one run with the limit `n + m` does, and leaves the same
processor, bus and control behind, and the instructions and the cycles of the two are together
those of the one. -/
theorem runs_compose (p : π) (b : Bus σ) (control : RunControl) (n m : UInt64)
    (fits : n.toNat + m.toNat < 2 ^ 64) :
    ∃ first ending, EndsAs p b control n first ending ∧
      ((costs p b control n).length ≤ n.toNat ∧
        first.steps.toNat = (costs p b control n).length) ∧
      (ending = .stopped .stopRequested ∨ ending = .stopped .limitReached →
        first.control = ⟨false, .paused⟩) ∧
      (ending = .stopped .halted ∨ (∃ fault, ending = .stopped (.fault fault)) →
        first.control = ⟨false, .halted⟩) ∧
      (ending = .stopped .limitReached → ∃ second whole last,
        EndsAs first.processor first.bus first.control m second last ∧
        EndsAs p b control (n + m) whole last ∧
        whole.processor = second.processor ∧ whole.bus = second.bus ∧
        whole.control = second.control ∧
        whole.steps.toNat = first.steps.toNat + second.steps.toNat ∧
        (total (costs p b control (n + m)) < 2 ^ 64 →
          whole.cycles.toNat = first.cycles.toNat + second.cycles.toNat)) := by
  obtain ⟨first, ending, ends⟩ := exists_endsAs p b control n
  obtain ⟨within, counted⟩ := ends.steps
  refine ⟨first, ending, ends, ⟨counted ▸ UInt64.le_iff_toNat_le.mp within, counted⟩, ?_, ?_, ?_⟩
  · rintro (rfl | rfl)
    · exact ends.control_eq
    · exact ends.control_eq
  · rintro (rfl | ⟨fault, rfl⟩)
    · exact ends.control_eq
    · exact ends.control_eq
  · rintro rfl
    obtain ⟨second, last, ends'⟩ := exists_endsAs first.processor first.bus first.control m
    obtain ⟨whole, executed⟩ := ends.goOn fits ends'
    have few := UInt64.le_iff_toNat_le.mp within
    have few' := UInt64.le_iff_toNat_le.mp ends'.steps.1
    refine ⟨second, _, last, ends', whole, rfl, rfl, rfl, ?_, fun cheap => ?_⟩
    · rw [later, UInt64.toNat_add]
      exact Nat.mod_eq_of_lt (by omega)
    · rw [executed, total, List.map_append, List.sum_append] at cheap
      have spent := ends.cycles (Nat.lt_of_le_of_lt (Nat.le_add_right _ _) cheap)
      have spent' := ends'.cycles (Nat.lt_of_le_of_lt (Nat.le_add_left _ _) cheap)
      rw [later, UInt64.toNat_add, spent, spent']
      exact Nat.mod_eq_of_lt cheap

/-- Five instructions, of which a run executes two and another the rest, after which the
processor halts. -/
theorem runs_compose_countdown :
    let b : Bus Unit := .empty smallSpace
    let p : Countdown := ⟨5⟩
    (2 : UInt64).toNat + (10 : UInt64).toNat < 2 ^ 64 ∧ ∃ first second whole,
      EndsAs p b {} 2 first (.stopped .limitReached) ∧
      EndsAs first.processor first.bus first.control 10 second (.stopped .halted) ∧
      EndsAs p b {} 12 whole (.stopped .halted) ∧ whole.control = second.control ∧
      whole.steps.toNat = first.steps.toNat + second.steps.toNat ∧
      whole.cycles.toNat = first.cycles.toNat + second.cycles.toNat := by
  intro b p
  have fits : (2 : UInt64).toNat + (10 : UInt64).toNat < 2 ^ 64 := by decide
  obtain ⟨first, ending, ends, -, -, -, goes⟩ := runs_compose p b {} 2 10 fits
  have paused : (untilStopped p b {} (some 2) 3).map Prod.snd =
      some (.stopped .limitReached) := rfl
  rw [ends 3 (by decide), Option.map_some] at paused
  obtain rfl := Option.some.inj paused
  obtain ⟨second, whole, last, ends', all, -, -, control, steps, cycles⟩ := goes rfl
  have halted : (untilStopped p b {} (some (2 + 10)) 13).map Prod.snd =
      some (.stopped .halted) := rfl
  rw [all 13 (by decide), Option.map_some] at halted
  obtain rfl := Option.some.inj halted
  exact ⟨fits, first, second, whole, ends, ends', all, control, steps, cycles (by decide)⟩

end Backplane.Run
