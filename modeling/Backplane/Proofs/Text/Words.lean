import Mathlib
import Backplane.Text.Blank

/-!
# Words set apart by blanks

A line is laid out with words if it is made of them in order, with blanks around them
and at least one blank between two. Splitting the line gives these words back
(`words_of_laid`), and whatever is split off any line is a word (`isWord_of_mem_words`).
Blanks at its ends make no difference to its words (`words_trimmed`).
-/

namespace Backplane.Blank

/-- Blanks and nothing else. -/
def IsGap (cs : List Char) : Prop := ∀ c ∈ cs, isBlank c = true

/-- At least one character, and no blank. -/
def IsWord (word : String) : Prop := word.toList ≠ [] ∧ ∀ c ∈ word.toList, isBlank c = false

/-- The characters are these words in order, with at least one blank between two, and
with blanks around them. -/
inductive Laid : List String → List Char → Prop
  /-- The last word. -/
  | last {before after : List Char} {word : String} : IsGap before → IsGap after →
    Laid [word] (before ++ (word.toList ++ after))
  /-- A word, a blank and the rest, which may begin with more blanks. -/
  | next {before rest : List Char} {word : String} {words : List String} {c : Char} :
    IsGap before → isBlank c = true → Laid words rest →
    Laid (word :: words) (before ++ (word.toList ++ c :: rest))

theorem isGap_of_all {gap : List Char} (blank : gap.all isBlank = true) : IsGap gap :=
  fun c mem => List.all_eq_true.mp blank c mem

/-! ## Splitting -/

theorem wordsFrom_gap {gap : List Char} (blank : IsGap gap) (cs : List Char) :
    wordsFrom [] (gap ++ cs) = wordsFrom [] cs := by
  induction gap with
  | nil => rfl
  | cons c gap ih =>
    obtain ⟨first, rest⟩ := List.forall_mem_cons.mp blank
    rw [List.cons_append, wordsFrom, if_pos first]
    exact ih rest

theorem wordsFrom_blanks {gap : List Char} (blank : IsGap gap) : wordsFrom [] gap = [] := by
  have alone := wordsFrom_gap blank []
  rwa [List.append_nil] at alone

theorem wordsFrom_nil {word : List Char} (nonempty : word ≠ []) :
    wordsFrom word [] = [word.reverse] := by
  cases word with
  | nil => exact absurd rfl nonempty
  | cons => rfl

/-- A blank ends the word that is being read. -/
theorem wordsFrom_blank {word : List Char} (nonempty : word ≠ []) {c : Char}
    (blank : isBlank c = true) (cs : List Char) :
    wordsFrom word (c :: cs) = word.reverse :: wordsFrom [] cs := by
  rw [wordsFrom, if_pos blank, if_neg (by rwa [List.isEmpty_iff])]

/-- Other characters belong to the word that is being read. -/
theorem wordsFrom_append {letters : List Char} (solid : ∀ c ∈ letters, isBlank c = false)
    (word cs : List Char) :
    wordsFrom word (letters ++ cs) = wordsFrom (letters.reverse ++ word) cs := by
  induction letters generalizing word with
  | nil => rfl
  | cons c letters ih =>
    obtain ⟨first, rest⟩ := List.forall_mem_cons.mp solid
    have letter : ¬isBlank c = true := by rw [first]; exact Bool.false_ne_true
    rw [List.cons_append, wordsFrom, if_neg letter, ih rest, List.reverse_cons, List.append_assoc]
    rfl

/-- Blanks after the characters belong to no word. -/
theorem wordsFrom_append_gap {gap : List Char} (blank : IsGap gap) (word cs : List Char) :
    wordsFrom word (cs ++ gap) = wordsFrom word cs := by
  induction cs generalizing word with
  | nil =>
    cases word with
    | nil => exact wordsFrom_blanks blank
    | cons letter word =>
      cases gap with
      | nil => rfl
      | cons c gap =>
        obtain ⟨first, rest⟩ := List.forall_mem_cons.mp blank
        rw [List.nil_append, wordsFrom_blank (List.cons_ne_nil letter word) first,
          wordsFrom_blanks rest]
        rfl
  | cons c cs ih => simp only [List.cons_append, wordsFrom, ih]

theorem wordsFrom_laid {words : List String} {cs : List Char} (laid : Laid words cs)
    (solid : ∀ word ∈ words, IsWord word) :
    wordsFrom [] cs = words.map String.toList := by
  induction laid with
  | @last before after word hb ha =>
    obtain ⟨nonempty, letters⟩ := solid word List.mem_cons_self
    have pending : word.toList.reverse ++ [] ≠ [] := by simpa using nonempty
    rw [wordsFrom_gap hb, wordsFrom_append letters]
    cases after with
    | nil =>
      rw [wordsFrom_nil pending]
      simp
    | cons c after =>
      obtain ⟨blank, rest⟩ := List.forall_mem_cons.mp ha
      rw [wordsFrom_blank pending blank, wordsFrom_blanks rest]
      simp
  | @next before rest word words c hb blank _ ih =>
    obtain ⟨⟨nonempty, letters⟩, others⟩ := List.forall_mem_cons.mp solid
    have pending : word.toList.reverse ++ [] ≠ [] := by simpa using nonempty
    rw [wordsFrom_gap hb, wordsFrom_append letters, wordsFrom_blank pending blank, ih others]
    simp

/-- A line that is laid out with words is split into them. -/
theorem words_of_laid {list : List String} {line : String} (laid : Laid list line.toList)
    (solid : ∀ word ∈ list, IsWord word) : words line = list := by
  rw [words, wordsFrom_laid laid solid, List.map_map]
  have same : String.ofList ∘ String.toList = id := funext fun word => String.ofList_toList
  rw [same, List.map_id]

/-- What is split off is a word, if what is being read has no blank. -/
theorem wordsFrom_solid {word cs : List Char} (solid : ∀ c ∈ word, isBlank c = false)
    {found : List Char} (mem : found ∈ wordsFrom word cs) :
    found ≠ [] ∧ ∀ c ∈ found, isBlank c = false := by
  fun_induction wordsFrom word cs with
  | case1 => cases mem
  | case2 word nonempty =>
    rw [List.mem_singleton] at mem
    subst mem
    refine ⟨?_, fun c hc => solid c (List.mem_reverse.mp hc)⟩
    exact fun empty => nonempty (List.reverse_eq_nil_iff.mp empty)
  | case3 word c cs blank empty ih => exact ih (fun c hc => by cases hc) mem
  | case4 word c cs blank nonempty ih =>
    rcases List.mem_cons.mp mem with rfl | mem
    · refine ⟨?_, fun c hc => solid c (List.mem_reverse.mp hc)⟩
      rw [List.isEmpty_iff] at nonempty
      exact fun empty => nonempty (List.reverse_eq_nil_iff.mp empty)
    · exact ih (fun c hc => by cases hc) mem
  | case5 word c cs letter ih =>
    refine ih ?_ mem
    exact List.forall_mem_cons.mpr ⟨Bool.eq_false_iff.mpr letter, solid⟩

/-- Every line is split into words. -/
theorem isWord_of_mem_words {line word : String} (mem : word ∈ words line) : IsWord word := by
  obtain ⟨letters, found, rfl⟩ := List.mem_map.mp mem
  rw [IsWord, String.toList_ofList]
  exact wordsFrom_solid (fun c hc => by cases hc) found

/-- Words can be laid out on a line. -/
theorem exists_laid (first : String) (others : List String) :
    ∃ line : String, Laid (first :: others) line.toList := by
  have none : IsGap [] := fun c hc => by cases hc
  induction others generalizing first with
  | nil =>
    have laid : Laid [first] ([] ++ first.toList ++ []) := .last none none
    exact ⟨first, by simpa using laid⟩
  | cons second others ih =>
    obtain ⟨line, laid⟩ := ih second
    refine ⟨String.ofList (first.toList ++ ' ' :: line.toList), ?_⟩
    rw [String.toList_ofList]
    exact .next none (by decide) laid

/-! ## Trimming -/

/-- What is trimmed off are blanks. -/
theorem exists_trim (cs : List Char) :
    ∃ before after, IsGap before ∧ IsGap after ∧ cs = before ++ (trim cs ++ after) := by
  have gap (ds : List Char) : IsGap (ds.takeWhile isBlank) :=
    fun _ mem => List.mem_takeWhile_imp mem
  refine ⟨cs.takeWhile isBlank, ((cs.dropWhile isBlank).reverse.takeWhile isBlank).reverse,
    gap cs, ?_, ?_⟩
  · exact fun c mem => gap _ c (List.mem_reverse.mp mem)
  · rw [trim, ← List.reverse_append, List.takeWhile_append_dropWhile, List.reverse_reverse,
      List.takeWhile_append_dropWhile]

/-- A line has the same words without the blanks at its ends. -/
theorem words_trimmed (line : String) : words (trimmed line) = words line := by
  obtain ⟨before, after, left, right, whole⟩ := exists_trim line.toList
  have same : wordsFrom [] (trim line.toList) = wordsFrom [] line.toList := by
    rw [whole, wordsFrom_gap left, wordsFrom_append_gap right, ← whole]
  rw [words, trimmed, String.toList_ofList, same, words]

end Backplane.Blank
