import Mathlib
import Backplane.Monitor.Script
import Backplane.Proofs.Monitor.Inspection
import Backplane.Proofs.Text.Words

/-!
# Lines that fail

A line that fails leaves its session as it was, whether it is no command or the command is
refused (`executeLine_error`). So a script shows and leaves what its other lines show and
leave: the lines of an input go on from there, and commands that are given by options stop
there.

Both are compared with lines that succeed one after the other (`Executes`), once with
failing lines left out (`succeeding`) and once with all cut off from the first on that fails
(`untilFailure`). The main statement is `failing_lines_leave_no_trace`.
-/

namespace Backplane

/-! ## Failure leaves everything as it was -/

namespace AddressMap

variable {m m' : AddressMap} {id : LayerId} {e : BusError}

theorem activate_error (failed : m.activate id = (m', .error e)) : m' = m := by
  unfold activate at failed
  split at failed
  · cases failed
    rfl
  · split at failed
    · cases failed
    · split at failed
      · cases failed
        rfl
      · cases failed

theorem deactivate_error (failed : m.deactivate id = (m', .error e)) : m' = m := by
  unfold deactivate at failed
  split at failed
  · cases failed
    rfl
  · split at failed <;> cases failed

end AddressMap

theorem Bus.setActive_error {σ : Type} {b b' : Bus σ} {name : String} {on : Bool} {e : BusError}
    (failed : (if on then b.activateNamed name else b.deactivateNamed name) = (b', .error e)) :
    b' = b := by
  unfold activateNamed deactivateNamed at failed
  cases named : b.map.named name with
  | error e =>
    rw [named] at failed
    cases on <;> cases failed <;> rfl
  | ok id =>
    rw [named] at failed
    cases on with
    | true =>
      obtain ⟨rfl, refused⟩ := Prod.mk.inj failed
      have same : (b.map.activate id).1 = b.map := AddressMap.activate_error (Prod.ext rfl refused)
      exact congrArg (Bus.mk · b.fabric b.trace) same
    | false =>
      obtain ⟨rfl, refused⟩ := Prod.mk.inj failed
      have same : (b.map.deactivate id).1 = b.map :=
        AddressMap.deactivate_error (Prod.ext rfl refused)
      exact congrArg (Bus.mk · b.fabric b.trace) same

namespace Session

variable {s t : Session} {c : Command} {line : String} {e : MonitorError}

theorem read_error {address : UInt32} {bits : UInt8}
    (failed : s.read address bits = (t, .error e)) : t = s := by
  unfold read at failed
  split at failed
  · cases failed
    rfl
  · split at failed <;> cases failed

theorem write_error {address value : UInt32} {bits : UInt8}
    (failed : s.write address value bits = (t, .error e)) : t = s := by
  unfold write at failed
  split at failed
  · cases failed
    rfl
  · split at failed <;> cases failed

theorem dump_error {start length : UInt32} (failed : s.dump start length = (t, .error e)) :
    t = s := by
  unfold dump at failed
  split at failed
  · cases failed
    rfl
  · cases failed

theorem setLayer_error {name : String} {on : Bool}
    (failed : s.setLayer name on = (t, .error e)) : t = s := by
  unfold setLayer at failed
  split at failed
  · cases failed
  · rename_i bus cause refused
    cases failed
    rw [Bus.setActive_error refused]

/-- A command that fails leaves the session as it was. -/
theorem execute_error (failed : s.execute c = (t, .error e)) : t = s := by
  cases c with
  | dump start length => exact dump_error failed
  | read address bits => exact read_error failed
  | write address value bits => exact write_error failed
  | layer name on => exact setLayer_error failed
  | peek address =>
    simp only [execute, peek] at failed
    split at failed <;> cases failed
  | poke | regions | layers | trace | events | devices | help => cases failed

/-- A line that fails leaves the session as it was. -/
theorem executeLine_error (failed : s.executeLine line = (t, .error e)) : t = s := by
  unfold executeLine at failed
  split at failed
  · cases failed
    rfl
  · exact execute_error failed

/-- Blanks at the ends of a line make no difference. -/
theorem executeLine_trimmed (s : Session) (line : String) :
    s.executeLine (Blank.trimmed line) = s.executeLine line := by
  rw [executeLine, executeLine, Command.parse, Command.parse, Blank.words_trimmed]

end Session

namespace Transcript

@[simp] theorem empty_append (t : Transcript) : ({} : Transcript).append t = t := by
  simp [append]

theorem exitCode_eq_one_iff (t : Transcript) : t.exitCode = 1 ↔ t.failed = true := by
  rw [exitCode]
  cases t.failed <;> decide

end Transcript

/-! ## Lines that are to be carried out -/

namespace Script

/-- The bytes of a text. -/
def bytesOf (text : String) : List UInt8 := text.toUTF8.data.toList

/-- The text of a line without the blanks at its ends, if the line is a text. -/
def text? (line : List UInt8) : Option String := (decode? line).map Blank.trimmed

/-- Whether the line is a text that does not end the script. -/
def goesPast (line : List UInt8) : Bool := (text? line).any fun text => !isQuit text

/-- The text of a line that is neither blank nor a comment. -/
def told? (line : List UInt8) : Option String := (text? line).filter fun text => !isSkipped text

/-- The lines that a script tells to carry out: those before its end that are neither blank
nor comments. -/
def told (lines : List (List UInt8)) : List String := (lines.takeWhile goesPast).filterMap told?

/-- The script ends at a line that is no text. -/
def BreaksOff (lines : List (List UInt8)) : Prop :=
  ∃ line ∈ (lines.dropWhile goesPast).head?, decode? line = none

variable {line : List UInt8} {lines : List (List UInt8)} {text : String}

@[simp] theorem decode?_bytesOf (text : String) : decode? (bytesOf text) = some text := by
  have valid : (⟨(bytesOf text).toArray⟩ : ByteArray).IsValidUTF8 := text.isValidUTF8
  rw [decode?, String.fromUTF8?, dif_pos valid]
  rfl

/-- No word that ends a script is blank or a comment. -/
theorem isQuit_of_isSkipped (skipped : isSkipped text = true) : isQuit text = false := by
  rw [isQuit, Bool.or_eq_false_iff, Bool.or_eq_false_iff, decide_eq_false_iff_not,
    decide_eq_false_iff_not, decide_eq_false_iff_not]
  refine ⟨⟨?_, ?_⟩, ?_⟩ <;>
  · rintro rfl
    exact absurd skipped (by decide)

theorem goesPast_of_text (shows : text? line = some text) : goesPast line = !isQuit text := by
  rw [goesPast, shows, Option.any_some]

theorem text_of_goesPast (goes : goesPast line = true) :
    ∃ text, text? line = some text ∧ isQuit text = false := by
  rw [goesPast, Option.any_eq_true] at goes
  obtain ⟨text, shows, stays⟩ := goes
  exact ⟨text, shows, Bool.not_eq_true' _ ▸ stays⟩

theorem told_of_ends (ends : goesPast line = false) (lines : List (List UInt8)) :
    told (line :: lines) = [] := by
  rw [told, List.takeWhile_cons_of_neg (by rw [ends]; decide), List.filterMap_nil]

theorem told_of_goesPast (goes : goesPast line = true) (lines : List (List UInt8)) :
    told (line :: lines) = (told? line).toList ++ told lines := by
  rw [told, told, List.takeWhile_cons_of_pos goes, List.filterMap_cons]
  cases told? line <;> rfl

theorem breaksOff_iff_of_ends (ends : goesPast line = false) :
    BreaksOff (line :: lines) ↔ decode? line = none := by
  rw [BreaksOff, List.dropWhile_cons_of_neg (by rw [ends]; decide)]
  simp

theorem breaksOff_iff_of_goesPast (goes : goesPast line = true) :
    BreaksOff (line :: lines) ↔ BreaksOff lines := by
  rw [BreaksOff, BreaksOff, List.dropWhile_cons_of_pos goes]

theorem told_bytesOf (texts : List String) :
    told (texts.map bytesOf) =
      ((texts.map Blank.trimmed).takeWhile fun text => !isQuit text).filter
        fun text => !isSkipped text := by
  have shows (text : String) : text? (bytesOf text) = some (Blank.trimmed text) := by
    rw [text?, decode?_bytesOf, Option.map_some]
  induction texts with
  | nil => rfl
  | cons text texts ih =>
    rw [List.map_cons, List.map_cons]
    cases quits : isQuit (Blank.trimmed text) with
    | true =>
      rw [told_of_ends (by rw [goesPast_of_text (shows text), quits]; rfl),
        List.takeWhile_cons_of_neg (by rw [quits]; decide), List.filter_nil]
    | false =>
      rw [told_of_goesPast (by rw [goesPast_of_text (shows text), quits]; rfl), ih,
        List.takeWhile_cons_of_pos (by rw [quits]; rfl), List.filter_cons, told?, shows,
        Option.filter_some]
      cases isSkipped (Blank.trimmed text) <;> rfl

end Script

namespace Session

/-- The session that lines leave, carried out one after the other. -/
def afterLines (s : Session) (lines : List String) : Session :=
  lines.foldl (fun s line => (s.executeLine line).1) s

/-- The line fails. -/
def Fails (s : Session) (line : String) : Prop := ∃ e, (s.executeLine line).2 = .error e

/-- One of the lines fails, carried out one after the other. -/
def SomeFails (s : Session) (lines : List String) : Prop :=
  ∃ before line after, lines = before ++ line :: after ∧ (s.afterLines before).Fails line

/-- Those of the lines that do not fail, carried out one after the other. -/
def succeeding (s : Session) : List String → List String
  | [] => []
  | line :: lines =>
    match s.executeLine line with
    | (t, .ok _) => line :: t.succeeding lines
    | (t, .error _) => t.succeeding lines

/-- The lines before the first that fails. -/
def untilFailure (s : Session) : List String → List String
  | [] => []
  | line :: lines =>
    match s.executeLine line with
    | (t, .ok _) => line :: t.untilFailure lines
    | (_, .error _) => []

/-- Lines that succeed, carried out one after the other, lead from one session to another and
show this. -/
inductive Executes : Session → List String → Session → String → Prop
  /-- No lines. -/
  | nil (s : Session) : Executes s [] s ""
  /-- A line that succeeds and then the others. -/
  | cons {s t u : Session} {line output rest : String} {lines : List String} :
    s.executeLine line = (t, .ok output) → Executes t lines u rest →
    Executes s (line :: lines) u (output ++ rest)

variable {s t u : Session} {line output : String} {lines : List String} {e : MonitorError}

/-! ## A line at a time -/

theorem succeeding_ok (done : s.executeLine line = (t, .ok output)) :
    s.succeeding (line :: lines) = line :: t.succeeding lines := by
  rw [succeeding, done]

theorem succeeding_error (failed : s.executeLine line = (s, .error e)) :
    s.succeeding (line :: lines) = s.succeeding lines := by
  rw [succeeding, failed]

theorem untilFailure_ok (done : s.executeLine line = (t, .ok output)) :
    s.untilFailure (line :: lines) = line :: t.untilFailure lines := by
  rw [untilFailure, done]

theorem untilFailure_error (failed : s.executeLine line = (t, .error e)) :
    s.untilFailure (line :: lines) = [] := by
  rw [untilFailure, failed]

theorem not_someFails_nil (s : Session) : ¬s.SomeFails [] := by
  rintro ⟨before, line, after, split, -⟩
  exact List.append_ne_nil_of_right_ne_nil _ (List.cons_ne_nil _ _) split.symm

theorem someFails_of_error (failed : s.executeLine line = (t, .error e)) (lines : List String) :
    s.SomeFails (line :: lines) :=
  ⟨[], line, lines, rfl, e, congrArg Prod.snd failed⟩

theorem someFails_ok_iff (done : s.executeLine line = (t, .ok output)) :
    s.SomeFails (line :: lines) ↔ t.SomeFails lines := by
  have next (before : List String) : s.afterLines (line :: before) = t.afterLines before := by
    rw [afterLines, List.foldl_cons, done, afterLines]
  constructor
  · rintro ⟨before, other, after, split, e, failed⟩
    cases before with
    | nil =>
      cases split
      cases (congrArg Prod.snd done).symm.trans failed
    | cons first before =>
      cases split
      rw [next] at failed
      exact ⟨before, other, after, rfl, e, failed⟩
  · rintro ⟨before, other, after, rfl, fails⟩
    exact ⟨line :: before, other, after, rfl, next before ▸ fails⟩

/-- A line either succeeds or fails, and then it leaves the session as it was. -/
theorem executeLine_cases (s : Session) (line : String) :
    (∃ t output, s.executeLine line = (t, .ok output)) ∨
      ∃ e, s.executeLine line = (s, .error e) := by
  rcases result : s.executeLine line with ⟨t, e | output⟩
  · cases executeLine_error result
    exact .inr ⟨e, rfl⟩
  · exact .inl ⟨t, output, rfl⟩

/-! ## Lines of the input -/

section Input

variable {line : List UInt8} {lines : List (List UInt8)} {text : String} {outcome : LineOutcome}

theorem runLine_of_text (shows : Script.text? line = some text) :
    s.runLine line =
      if Script.isSkipped text then (s, .skipped)
      else if Script.isQuit text then (s, .quit)
      else match s.executeLine text with
        | (s, .ok output) => (s, .shown output)
        | (s, .error cause) => (s, .failed cause) := by
  obtain ⟨whole, decoded, rfl⟩ := Option.map_eq_some_iff.mp shows
  rcases result : s.executeLine (Blank.trimmed whole) with ⟨t, e | output⟩ <;>
    simp only [runLine, decoded, result]

/-- A line past which the script does not go shows nothing. -/
theorem runLine_of_ends (ends : Script.goesPast line = false) :
    ∃ outcome, s.runLine line = (s, outcome) ∧ outcome.goesOn = false ∧
      outcome.transcript.output = "" ∧
      (outcome.transcript.failed = true ↔ Script.decode? line = none) := by
  cases decoded : Script.decode? line with
  | none =>
    refine ⟨.unreadable, ?_, rfl, rfl, iff_of_true rfl rfl⟩
    rw [runLine, decoded]
  | some whole =>
    have shows : Script.text? line = some (Blank.trimmed whole) := congrArg _ decoded
    have quits : Script.isQuit (Blank.trimmed whole) = true := by
      rwa [Script.goesPast_of_text shows, Bool.not_eq_false'] at ends
    have acts : ¬Script.isSkipped (Blank.trimmed whole) = true := by
      intro skipped
      rw [Script.isQuit_of_isSkipped skipped] at quits
      cases quits
    refine ⟨.quit, ?_, rfl, rfl, iff_of_false Bool.false_ne_true (Option.some_ne_none _)⟩
    rw [runLine_of_text shows, if_neg acts, if_pos quits]

theorem runLine_of_skipped (shows : Script.text? line = some text)
    (skipped : Script.isSkipped text = true) : s.runLine line = (s, .skipped) := by
  rw [runLine_of_text shows, if_pos skipped]

theorem runLine_of_told (shows : Script.text? line = some text)
    (acts : Script.isSkipped text = false) (goes : Script.isQuit text = false) :
    s.runLine line =
      match s.executeLine text with
      | (s, .ok output) => (s, .shown output)
      | (s, .error cause) => (s, .failed cause) := by
  rw [runLine_of_text shows, if_neg (by rw [acts]; decide), if_neg (by rw [goes]; decide)]

theorem runLines_of_ends (ran : s.runLine line = (t, outcome)) (ends : outcome.goesOn = false)
    (lines : List (List UInt8)) : s.runLines (line :: lines) = (t, outcome.transcript) := by
  rw [runLines, ran]
  dsimp only
  rw [ends]
  rfl

theorem runLines_of_goesOn (ran : s.runLine line = (t, outcome)) (goes : outcome.goesOn = true)
    (lines : List (List UInt8)) :
    s.runLines (line :: lines) =
      ((t.runLines lines).1, outcome.transcript.append (t.runLines lines).2) := by
  rw [runLines, ran]
  dsimp only
  rw [goes]
  rfl

/-- A script shows and leaves what those of its lines do that succeed, and it fails if one of
them fails or if it breaks off. -/
theorem runLines_told (s : Session) (lines : List (List UInt8)) :
    s.Executes (s.succeeding (Script.told lines)) (s.runLines lines).1
        (s.runLines lines).2.output ∧
      ((s.runLines lines).2.failed = true ↔
        s.SomeFails (Script.told lines) ∨ Script.BreaksOff lines) := by
  induction lines generalizing s with
  | nil =>
    refine ⟨.nil s, iff_of_false Bool.false_ne_true ?_⟩
    rintro (fails | ⟨line, last, -⟩)
    · exact not_someFails_nil s fails
    · cases last
  | cons line lines ih =>
    cases goes : Script.goesPast line with
    | false =>
      obtain ⟨outcome, ran, ends, shows, failed⟩ := runLine_of_ends (s := s) goes
      rw [Script.told_of_ends goes, runLines_of_ends ran ends, shows,
        Script.breaksOff_iff_of_ends goes, failed]
      exact ⟨.nil s, (or_iff_right (not_someFails_nil s)).symm⟩
    | true =>
      obtain ⟨text, shows, stays⟩ := Script.text_of_goesPast goes
      rw [Script.told_of_goesPast goes, Script.breaksOff_iff_of_goesPast goes, Script.told?, shows]
      cases acts : Script.isSkipped text with
      | true =>
        rw [runLines_of_goesOn (runLine_of_skipped shows acts) rfl,
          Option.filter_some_neg (by rw [acts]; decide), LineOutcome.transcript,
          Transcript.empty_append]
        exact ih s
      | false =>
        have ran := runLine_of_told (s := s) shows acts stays
        rw [Option.filter_some_pos (by rw [acts]; decide)]
        obtain ⟨t, output, done⟩ | ⟨e, failed⟩ := s.executeLine_cases text
        · rw [done] at ran
          obtain ⟨executes, fails⟩ := ih t
          rw [runLines_of_goesOn ran rfl, Option.toList_some, List.singleton_append,
            succeeding_ok done, someFails_ok_iff done, ← fails]
          exact ⟨.cons done executes, Iff.rfl⟩
        · rw [failed] at ran
          obtain ⟨executes, -⟩ := ih s
          rw [runLines_of_goesOn ran rfl, Option.toList_some, List.singleton_append,
            succeeding_error failed]
          refine ⟨?_, iff_of_true (Bool.true_or (s.runLines lines).2.failed)
            (.inl (someFails_of_error failed _))⟩
          rw [LineOutcome.transcript, Transcript.append, Transcript.failure, String.empty_append]
          exact executes

end Input

/-! ## Commands that are given by options -/

/-- A line of the input with a text that succeeds. -/
theorem runLine_bytesOf {text : String} (acts : Script.isSkipped (Blank.trimmed text) = false)
    (goes : Script.isQuit (Blank.trimmed text) = false)
    (done : s.executeLine text = (t, .ok output)) :
    s.runLine (Script.bytesOf text) = (t, .shown output) := by
  have shows : Script.text? (Script.bytesOf text) = some (Blank.trimmed text) := by
    rw [Script.text?, Script.decode?_bytesOf, Option.map_some]
  rw [runLine_of_told shows acts goes, executeLine_trimmed, done]

/-- Commands show and leave what they do as lines of an input that ends before the first that
fails, and they fail if one of them does. -/
theorem runCommands_told (s : Session) {texts : List String}
    (plain : ∀ text ∈ texts, Script.isSkipped (Blank.trimmed text) = false ∧
      Script.isQuit (Blank.trimmed text) = false) :
    (s.runCommands texts).1 = (s.runLines ((s.untilFailure texts).map Script.bytesOf)).1 ∧
      (s.runCommands texts).2.output =
        (s.runLines ((s.untilFailure texts).map Script.bytesOf)).2.output ∧
      ((s.runCommands texts).2.failed = true ↔ s.SomeFails texts) := by
  induction texts generalizing s with
  | nil => exact ⟨rfl, rfl, iff_of_false Bool.false_ne_true (not_someFails_nil s)⟩
  | cons text texts ih =>
    obtain ⟨t, output, done⟩ | ⟨e, failed⟩ := s.executeLine_cases text
    · obtain ⟨acts, goes⟩ := plain text List.mem_cons_self
      obtain ⟨left, shown, fails⟩ := ih t fun text at' => plain text (List.mem_cons_of_mem _ at')
      rw [untilFailure_ok done, List.map_cons,
        runLines_of_goesOn (runLine_bytesOf acts goes done) rfl, someFails_ok_iff done, ← fails,
        runCommands, done]
      exact ⟨left, congrArg (output ++ ·) shown, Iff.rfl⟩
    · rw [untilFailure_error failed, runCommands, failed]
      exact ⟨rfl, rfl, iff_of_true rfl (someFails_of_error failed texts)⟩

/-! ## Scripts -/

/-- Lines of an input show and leave what those before the end do that are neither blank nor
comments and do not fail, and the exit code tells whether one of them fails or is no text.
Commands do as lines of an input that ends before the first that fails, and their exit code
tells whether one does. -/
theorem failing_lines_leave_no_trace (s : Session) :
    (∀ lines : List (List UInt8),
      s.Executes (s.succeeding (Script.told lines)) (s.runLines lines).1
        (s.runLines lines).2.output ∧
      ((s.runLines lines).2.exitCode = 1 ↔
        s.SomeFails (Script.told lines) ∨ Script.BreaksOff lines)) ∧
    ∀ texts : List String,
      (∀ text ∈ texts, Script.isSkipped (Blank.trimmed text) = false ∧
        Script.isQuit (Blank.trimmed text) = false) →
      (s.runCommands texts).1 = (s.runLines ((s.untilFailure texts).map Script.bytesOf)).1 ∧
      (s.runCommands texts).2.output =
        (s.runLines ((s.untilFailure texts).map Script.bytesOf)).2.output ∧
      ((s.runCommands texts).2.exitCode = 1 ↔ s.SomeFails texts) := by
  refine ⟨fun lines => ?_, fun texts plain => ?_⟩
  · rw [Transcript.exitCode_eq_one_iff]
    exact s.runLines_told lines
  · rw [Transcript.exitCode_eq_one_iff]
    exact s.runCommands_told plain

/-- A script with a word that is no command, a layer that does not exist and a dump that
runs out of the space. -/
def stumbling : List (List UInt8) :=
  ["# a layer", "read 81", "peel 40", "", "layer none on", "dump 80 100", "read 40", " quit",
   "layers"].map Script.bytesOf

/-- Commands of which the second fails. -/
def halted : List String := ["read 81", "layer none on", "read 40"]

/-- Of the script nothing is left but its reads, and of the commands the first. -/
theorem failing_lines_leave_no_trace_watched :
    ∃ s, build watched (some 4) = .ok s ∧
      s.Executes ["read 81", "read 40"] (s.runLines stumbling).1
        (s.runLines stumbling).2.output ∧
      (s.runLines stumbling).2.exitCode = 1 ∧
      (∀ text ∈ halted, Script.isSkipped (Blank.trimmed text) = false ∧
        Script.isQuit (Blank.trimmed text) = false) ∧
      (s.runCommands halted).1 = (s.runLines (["read 81"].map Script.bytesOf)).1 ∧
      (s.runCommands halted).2.exitCode = 1 := by
  have told : Script.told stumbling =
      ["read 81", "peel 40", "layer none on", "dump 80 100", "read 40"] := by
    rw [stumbling, Script.told_bytesOf]
    decide_cbv
  have unknown : Command.parse "peel 40" = .error (.unknownCommand "peel") := by decide_cbv
  have plain : ∀ text ∈ halted, Script.isSkipped (Blank.trimmed text) = false ∧
      Script.isQuit (Blank.trimmed text) = false := by
    have each : (halted.map Blank.trimmed).all
        (fun text => !Script.isSkipped text && !Script.isQuit text) = true := by
      decide_cbv
    simpa using each
  have run : ((build watched (some 4)).toOption.map fun s =>
      (s.succeeding ["read 81", "peel 40", "layer none on", "dump 80 100", "read 40"],
        s.untilFailure halted,
        ((s.afterLines ["read 81"]).executeLine "layer none on").2)) =
      some (["read 81", "read 40"], ["read 81"], .error (.bus (.unknownLayer "none"))) := by
    decide_cbv
  cases built : build watched (some 4) with
  | error e =>
    rw [built] at run
    cases run
  | ok s =>
    rw [built, Except.toOption, Option.map_some, Option.some.injEq, Prod.mk.injEq,
      Prod.mk.injEq] at run
    obtain ⟨kept, before, refused⟩ := run
    obtain ⟨input, given⟩ := s.failing_lines_leave_no_trace
    obtain ⟨executes, fails⟩ := input stumbling
    obtain ⟨left, -, halts⟩ := given halted plain
    rw [told, kept] at executes
    rw [before] at left
    have peels : s.SomeFails (Script.told stumbling) := by
      rw [told]
      refine ⟨["read 81"], "peel 40", _, rfl, .command (.unknownCommand "peel"), ?_⟩
      rw [executeLine, unknown]
    exact ⟨s, rfl, executes, fails.mpr (.inl peels), plain, left,
      halts.mpr ⟨["read 81"], "layer none on", ["read 40"], rfl, _, refused⟩⟩

end Session
end Backplane
