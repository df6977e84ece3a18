import Mathlib.Data.List.DropRight
import SqlAudit.Text.Blank

/-! # Blanks around and between words

What trimming a text and cutting it into words give, said without the scans that do it. A trimmed
text is what is left between the blanks at both ends and begins and ends with other characters. The
words of a text are the runs of other characters that stand in it with blanks around them, as many
as one likes, and at least one between neighbours.
-/

namespace SqlAudit.Text

/-- No visible ASCII character is a blank. -/
theorem not_isBlank_of_toNat {c : Char} (hlow : 33 ≤ c.toNat) (hhigh : c.toNat ≤ 126) :
    isBlank c = false := by
  simp only [isBlank, Bool.or_eq_false_iff, Bool.and_eq_false_iff, decide_eq_false_iff_not,
    beq_eq_false_iff_ne]
  omega

theorem not_isBlank_of_isDigit {c : Char} (hc : c.isDigit = true) : isBlank c = false := by
  have hbounds : 48 ≤ c.toNat ∧ c.toNat ≤ 57 := Char.isDigit_iff_toNat.mp hc
  exact not_isBlank_of_toNat (by omega) (by omega)

/-! ## Runs at the front -/

section Runs

variable {p : Char → Bool} {run rest : List Char}

/-- A run ends where the first character of the rest fails the test. -/
theorem takeWhile_append_of_head (hrun : ∀ c ∈ run, p c = true)
    (hrest : ∀ c ∈ rest.head?, p c = false) :
    (run ++ rest).takeWhile p = run := by
  rw [List.takeWhile_append_of_pos hrun]
  cases rest with
  | nil => simp
  | cons c rest => simp [hrest c rfl]

theorem dropWhile_append_of_head (hrun : ∀ c ∈ run, p c = true)
    (hrest : ∀ c ∈ rest.head?, p c = false) :
    (run ++ rest).dropWhile p = rest := by
  rw [List.dropWhile_append_of_pos hrun]
  cases rest with
  | nil => rfl
  | cons c rest => rw [List.dropWhile_cons_of_neg (by simp [hrest c rfl])]

theorem head_dropWhile (p : Char → Bool) (cs : List Char) :
    ∀ c ∈ (cs.dropWhile p).head?, p c = false := by
  intro c hc
  simpa [Option.mem_def.mp hc] using List.head?_dropWhile_not p cs

/-- What is left between the runs at both ends. -/
theorem dropWhile_both_ends {before middle after : List Char} (hbefore : ∀ c ∈ before, p c = true)
    (hafter : ∀ c ∈ after, p c = true) (hhead : ∀ c ∈ middle.head?, p c = false)
    (hlast : ∀ c ∈ middle.getLast?, p c = false) :
    (((before ++ (middle ++ after)).dropWhile p).reverse.dropWhile p).reverse = middle := by
  cases middle with
  | nil =>
      have hall : ∀ c ∈ before ++ after, p c = true := List.forall_mem_append.mpr ⟨hbefore, hafter⟩
      rw [List.nil_append, List.dropWhile_eq_nil_iff.mpr hall]
      rfl
  | cons first rest =>
      have hstart : ∀ c ∈ (first :: rest ++ after).head?, p c = false := hhead
      have hend : ∀ c ∈ (first :: rest).reverse.head?, p c = false := by rwa [List.head?_reverse]
      rw [dropWhile_append_of_head hbefore hstart, List.reverse_append,
        dropWhile_append_of_head (by simpa using hafter) hend, List.reverse_reverse]

end Runs

/-! ## Trimmed texts -/

/-- The characters are the others without the blanks at both ends. -/
structure IsTrimOf (trimmed cs : List Char) : Prop where
  exists_blanks : ∃ before after, cs = before ++ (trimmed ++ after) ∧
    (∀ c ∈ before, isBlank c = true) ∧ ∀ c ∈ after, isBlank c = true
  head : ∀ c ∈ trimmed.head?, isBlank c = false
  last : ∀ c ∈ trimmed.getLast?, isBlank c = false

/-- Reversing twice comes to dropping the blanks from either end. -/
theorem trimChars_eq (cs : List Char) : trimChars cs = (cs.dropWhile isBlank).rdropWhile isBlank :=
  rfl

/-- Trimming takes only blanks away and leaves none at the ends. -/
theorem isTrimOf_trimChars (cs : List Char) : IsTrimOf (trimChars cs) cs := by
  rw [trimChars_eq]
  refine ⟨⟨cs.takeWhile isBlank, (cs.dropWhile isBlank).rtakeWhile isBlank, ?_, ?_, ?_⟩, ?_, ?_⟩
  · rw [List.rdropWhile_append_rtakeWhile, List.takeWhile_append_dropWhile]
  · exact fun c => List.mem_takeWhile_imp
  · exact fun c => List.mem_rtakeWhile_imp
  · intro c hc
    refine head_dropWhile isBlank cs c ?_
    obtain ⟨rest, hrest⟩ := List.rdropWhile_prefix isBlank (l := cs.dropWhile isBlank)
    rw [← hrest, List.head?_append, Option.mem_def.mp hc]
    rfl
  · intro c hc
    obtain ⟨hne, rfl⟩ := List.mem_getLast?_eq_getLast hc
    simpa using List.rdropWhile_last_not isBlank _ hne

/-- Trimming gives exactly what is left between the blanks at both ends. -/
theorem trimChars_eq_iff {cs trimmed : List Char} :
    trimChars cs = trimmed ↔ IsTrimOf trimmed cs := by
  constructor
  · rintro rfl
    exact isTrimOf_trimChars cs
  · rintro ⟨⟨before, after, rfl, hbefore, hafter⟩, hhead, hlast⟩
    exact dropWhile_both_ends hbefore hafter hhead hlast

/-! ## Words -/

/-- The characters are the words in their order, with blanks around them and at least one between
neighbours. -/
inductive Spaced : List (List Char) → List Char → Prop
  | blanks {gap : List Char} (hgap : ∀ c ∈ gap, isBlank c = true) : Spaced [] gap
  | word {gap word rest : List Char} {words : List (List Char)} (hgap : ∀ c ∈ gap, isBlank c = true)
      (hne : word ≠ []) (hword : ∀ c ∈ word, isBlank c = false)
      (hnext : ∀ c ∈ rest.head?, isBlank c = true) (hrest : Spaced words rest) :
      Spaced (word :: words) (gap ++ (word ++ rest))

theorem wordsFrom_blanks {gap : List Char} (hgap : ∀ c ∈ gap, isBlank c = true) (rest : List Char) :
    wordsFrom [] (gap ++ rest) = wordsFrom [] rest := by
  induction gap with
  | nil => rfl
  | cons c gap ih =>
      obtain ⟨hc, hgap⟩ := List.forall_mem_cons.mp hgap
      rw [List.cons_append, wordsFrom, if_pos hc, List.isEmpty_nil, if_pos rfl, ih hgap]

/-- The characters of a word are collected in front of the run. -/
theorem wordsFrom_word {word : List Char} (hword : ∀ c ∈ word, isBlank c = false)
    (run rest : List Char) :
    wordsFrom run (word ++ rest) = wordsFrom (word.reverse ++ run) rest := by
  induction word generalizing run with
  | nil => rfl
  | cons c word ih =>
      obtain ⟨hc, hword⟩ := List.forall_mem_cons.mp hword
      rw [List.cons_append, wordsFrom, if_neg (by simp [hc]), ih hword, List.reverse_cons,
        List.append_assoc]
      rfl

/-- A run that is read ends at a blank or at the end of the text. -/
theorem wordsFrom_run {run rest : List Char} (hrun : run ≠ [])
    (hnext : ∀ c ∈ rest.head?, isBlank c = true) :
    wordsFrom run rest = run.reverse :: wordsFrom [] rest := by
  have hempty : run.isEmpty = false := by simpa using hrun
  cases rest with
  | nil => simp [wordsFrom, hempty]
  | cons c rest => simp [wordsFrom, hnext c rfl, hempty]

namespace Spaced

/-- Splitting finds exactly the words that blanks set apart. -/
theorem wordsFrom_eq {words : List (List Char)} {cs : List Char} (hcs : Spaced words cs) :
    wordsFrom [] cs = words := by
  induction hcs with
  | @blanks gap hgap => simpa [wordsFrom] using wordsFrom_blanks hgap []
  | word hgap hne hword hnext _ ih =>
      rw [wordsFrom_blanks hgap, wordsFrom_word hword, List.append_nil,
        wordsFrom_run (by simpa using hne) hnext, ih, List.reverse_reverse]

theorem cons_word {word rest : List Char} {words : List (List Char)} (hne : word ≠ [])
    (hword : ∀ c ∈ word, isBlank c = false) (hnext : ∀ c ∈ rest.head?, isBlank c = true)
    (hrest : Spaced words rest) : Spaced (word :: words) (word ++ rest) :=
  .word (List.forall_mem_nil _) hne hword hnext hrest

theorem cons_blank {words : List (List Char)} {cs : List Char} (hcs : Spaced words cs) {c : Char}
    (hc : isBlank c = true) : Spaced words (c :: cs) := by
  cases hcs with
  | blanks hgap => exact .blanks (List.forall_mem_cons.mpr ⟨hc, hgap⟩)
  | word hgap hne hword hnext hrest =>
      exact .word (List.forall_mem_cons.mpr ⟨hc, hgap⟩) hne hword hnext hrest

end Spaced

/-- A run that ends here is the next word. -/
theorem spaced_run {run rest : List Char} (hrun : ∀ c ∈ run, isBlank c = false)
    (hnext : ∀ c ∈ rest.head?, isBlank c = true) (hrest : Spaced (wordsFrom [] rest) rest) :
    Spaced (wordsFrom run rest) (run.reverse ++ rest) := by
  by_cases hne : run = []
  · simpa [hne] using hrest
  · rw [wordsFrom_run hne hnext]
    exact .cons_word (by simpa using hne) (by simpa using hrun) hnext hrest

/-- A text is spaced out from the words that are read from it, the run read so far included. -/
theorem spaced_wordsFrom {run : List Char} (hrun : ∀ c ∈ run, isBlank c = false) (cs : List Char) :
    Spaced (wordsFrom run cs) (run.reverse ++ cs) := by
  induction cs generalizing run with
  | nil => exact spaced_run hrun (by simp) (.blanks (List.forall_mem_nil _))
  | cons c cs ih =>
      cases hc : isBlank c with
      | true =>
          have hrest := (ih (List.forall_mem_nil _)).cons_blank hc
          exact spaced_run hrun (by simpa using hc) (by simpa [wordsFrom, hc] using hrest)
      | false =>
          have hlonger := ih (List.forall_mem_cons.mpr ⟨hc, hrun⟩)
          simpa [wordsFrom, hc] using hlonger

/-- The words of a text are those that it is spaced out from. -/
theorem spaced_iff {words : List (List Char)} {cs : List Char} :
    Spaced words cs ↔ wordsFrom [] cs = words := by
  constructor
  · exact Spaced.wordsFrom_eq
  · rintro rfl
    exact spaced_wordsFrom (by simp) cs

instance (words : List (List Char)) (cs : List Char) : Decidable (Spaced words cs) :=
  decidable_of_iff' _ spaced_iff

end SqlAudit.Text
