import Mathlib.Computability.Language
import SqlAudit.Proofs.Blanks
import SqlAudit.Rules.LiteralKind

/-! # Date literals

The form of a date is a regular language over characters, put together from digits and separators.
The matcher takes as many digits as it may and never goes back, which is enough: where a field has
one digit or two, what follows the field does not begin with a digit. So the matcher accepts exactly
the words of the language, and a string is a date string exactly if it is such a word between
blanks.
-/

namespace SqlAudit

namespace DateText

open Computability

/-! ## The form of a date -/

/-- A digit of any script. -/
def digit : Language Char :=
  {cs | ∃ c, cs = [c] ∧ Text.isDecimalDigit c = true}

/-- One of the given characters. -/
def oneOf (choices : List Char) : Language Char :=
  {cs | ∃ c ∈ choices, cs = [c]}

def fraction : Language Char :=
  1 + oneOf ['.'] * digit * digit∗

def seconds : Language Char :=
  1 + oneOf [':'] * digit ^ 2 * fraction

def time : Language Char :=
  1 + oneOf [' ', 'T'] * (digit + digit ^ 2) * oneOf [':'] * digit ^ 2 * seconds

/-- A day, written with a year of four digits, and a time of that day or none. -/
def date : Language Char :=
  digit ^ 4 * oneOf ['-'] * (digit + digit ^ 2) * oneOf ['-'] * (digit + digit ^ 2) * time

/-! ## Runs of digits -/

/-- The words of `digit ^ n` are the runs of `n` digits. -/
theorem mem_digit_pow {n : Nat} {cs : List Char} :
    cs ∈ digit ^ n ↔ cs.length = n ∧ ∀ c ∈ cs, Text.isDecimalDigit c = true := by
  induction n generalizing cs with
  | zero =>
      rw [pow_zero, Language.mem_one, List.length_eq_zero_iff]
      exact ⟨fun hcs => ⟨hcs, by simp [hcs]⟩, And.left⟩
  | succ n ih =>
      rw [pow_succ', Language.mem_mul]
      constructor
      · intro ⟨first, ⟨c, hfirst, hc⟩, rest, hrest, hcs⟩
        obtain ⟨hlength, hdigits⟩ := ih.mp hrest
        subst hfirst hcs
        exact ⟨by simp [hlength], List.forall_mem_cons.mpr ⟨hc, hdigits⟩⟩
      · intro ⟨hlength, hdigits⟩
        obtain ⟨c, rest, rfl⟩ := List.exists_cons_of_length_eq_add_one hlength
        obtain ⟨hc, hrest⟩ := List.forall_mem_cons.mp hdigits
        exact ⟨[c], ⟨c, rfl, hc⟩, rest, ih.mpr ⟨Nat.succ.inj hlength, hrest⟩, rfl⟩

theorem mem_digit_kstar {cs : List Char} :
    cs ∈ digit∗ ↔ ∀ c ∈ cs, Text.isDecimalDigit c = true := by
  simp [Language.kstar_eq_iSup_pow, Language.mem_iSup, mem_digit_pow]

theorem mem_digit_mul_kstar {cs : List Char} :
    cs ∈ digit * digit∗ ↔ cs ≠ [] ∧ ∀ c ∈ cs, Text.isDecimalDigit c = true := by
  rw [Language.mem_mul]
  constructor
  · rintro ⟨_, ⟨c, rfl, hc⟩, rest, hrest, rfl⟩
    exact ⟨List.cons_ne_nil c rest, List.forall_mem_cons.mpr ⟨hc, mem_digit_kstar.mp hrest⟩⟩
  · intro ⟨hne, hdigits⟩
    obtain ⟨c, rest, rfl⟩ := List.exists_cons_of_ne_nil hne
    obtain ⟨hc, hrest⟩ := List.forall_mem_cons.mp hdigits
    exact ⟨[c], ⟨c, rfl, hc⟩, rest, mem_digit_kstar.mpr hrest, rfl⟩

/-- The characters are between `least` and `most` digits. -/
structure IsRun (least most : Nat) (cs : List Char) : Prop where
  least_le : least ≤ cs.length
  le_most : cs.length ≤ most
  digits : ∀ c ∈ cs, Text.isDecimalDigit c = true

theorem mem_digit_pow_iff_isRun {n : Nat} {cs : List Char} : cs ∈ digit ^ n ↔ IsRun n n cs := by
  rw [mem_digit_pow]
  constructor
  · intro ⟨hlength, hdigits⟩
    exact ⟨hlength.ge, hlength.le, hdigits⟩
  · intro ⟨hleast, hmost, hdigits⟩
    exact ⟨Nat.le_antisymm hmost hleast, hdigits⟩

theorem mem_one_or_two_iff_isRun {cs : List Char} : cs ∈ digit + digit ^ 2 ↔ IsRun 1 2 cs := by
  rw [Language.mem_add, ← pow_one digit, mem_digit_pow, ← pow_mul, mem_digit_pow]
  constructor
  · rintro (⟨hlength, hdigits⟩ | ⟨hlength, hdigits⟩)
    · exact ⟨by omega, by omega, hdigits⟩
    · exact ⟨by omega, by omega, hdigits⟩
  · intro ⟨hleast, hmost, hdigits⟩
    by_cases hlength : cs.length = 1
    · exact Or.inl ⟨hlength, hdigits⟩
    · exact Or.inr ⟨by omega, hdigits⟩

/-- No word begins with a digit. -/
def DigitFree (l : Language Char) : Prop :=
  ∀ cs ∈ l, ∀ c ∈ cs.head?, Text.isDecimalDigit c = false

/-- The digits that are dropped are a run, and it ends before `most` digits only where no digit
follows. -/
theorem dropDigits_eq_some_iff {least most : Nat} {cs rest : List Char} :
    dropDigits least most cs = some rest ↔ ∃ run, cs = run ++ rest ∧ IsRun least most run ∧
      (run.length < most → ∀ c ∈ rest.head?, Text.isDecimalDigit c = false) := by
  simp only [dropDigits, ← List.take_takeWhile, Option.ite_none_right_eq_some, Option.some_inj]
  constructor
  · rintro ⟨hleast, rfl⟩
    have htaken : (cs.takeWhile Text.isDecimalDigit).take most <+: cs :=
      (List.take_prefix _ _).trans (List.takeWhile_prefix _)
    refine ⟨_, (List.prefix_iff_eq_append.mp htaken).symm,
      ⟨hleast, List.length_take_le _ _, ?_⟩, ?_⟩
    · intro c hc
      exact List.mem_takeWhile_imp (List.mem_of_mem_take hc)
    · intro hshort
      -- All digits in front were taken, so the rest is what follows them.
      have hall : (cs.takeWhile Text.isDecimalDigit).length ≤ most := by
        rw [List.length_take] at hshort
        omega
      have hrest : cs.drop (cs.takeWhile Text.isDecimalDigit).length =
          cs.dropWhile Text.isDecimalDigit :=
        List.append_cancel_left ((List.prefix_iff_eq_append.mp (List.takeWhile_prefix _)).trans
          List.takeWhile_append_dropWhile.symm)
      rw [List.take_of_length_le hall, hrest]
      exact Text.head_dropWhile _ cs
  · rintro ⟨run, rfl, hrun, hnext⟩
    have htaken : ((run ++ rest).takeWhile Text.isDecimalDigit).take most = run := by
      by_cases hshort : run.length < most
      · rw [Text.takeWhile_append_of_head hrun.digits (hnext hshort),
          List.take_of_length_le hrun.le_most]
      · have hlength : run.length = most := Nat.le_antisymm hrun.le_most (Nat.le_of_not_lt hshort)
        rw [List.takeWhile_append_of_pos hrun.digits, List.take_left' hlength]
    rw [htaken]
    exact ⟨hrun.least_le, List.drop_left⟩

/-- Dropping digits takes a run off every text that has one in front of a word, if the run has a
fixed length or the word begins with something else. -/
theorem mem_run_mul_iff {least most : Nat} {run l : Language Char}
    (hrun : ∀ {cs}, cs ∈ run ↔ IsRun least most cs) (hl : least = most ∨ DigitFree l)
    {cs : List Char} :
    cs ∈ run * l ↔ ∃ rest, dropDigits least most cs = some rest ∧ rest ∈ l := by
  rw [Language.mem_mul]
  constructor
  · rintro ⟨digits, hdigits, rest, hrest, rfl⟩
    refine ⟨rest, dropDigits_eq_some_iff.mpr ⟨digits, rfl, hrun.mp hdigits, fun hshort => ?_⟩,
      hrest⟩
    rcases hl with heq | hfree
    · have hleast := (hrun.mp hdigits).least_le
      omega
    · exact hfree rest hrest
  · rintro ⟨rest, hdrop, hrest⟩
    obtain ⟨digits, rfl, hdigits, -⟩ := dropDigits_eq_some_iff.mp hdrop
    exact ⟨digits, hrun.mpr hdigits, rest, hrest, rfl⟩

theorem dropOne_eq_some_iff {choices cs rest : List Char} :
    dropOne choices cs = some rest ↔ ∃ c ∈ choices, cs = c :: rest := by
  cases cs with
  | nil => simp [dropOne]
  | cons d cs => simp [dropOne, and_comm]

theorem mem_oneOf_mul_iff {choices : List Char} {l : Language Char} {cs : List Char} :
    cs ∈ oneOf choices * l ↔ ∃ rest, dropOne choices cs = some rest ∧ rest ∈ l := by
  simp only [Language.mem_mul, dropOne_eq_some_iff]
  constructor
  · rintro ⟨_, ⟨c, hc, rfl⟩, rest, hrest, rfl⟩
    exact ⟨rest, ⟨c, hc, rfl⟩, hrest⟩
  · rintro ⟨rest, ⟨c, hc, rfl⟩, hrest⟩
    exact ⟨[c], ⟨c, hc, rfl⟩, rest, hrest, rfl⟩

/-- A word that begins with a mark begins with no digit. -/
theorem digitFree_oneOf_mul {choices : List Char}
    (hchoices : choices.any Text.isDecimalDigit = false) (l : Language Char) :
    DigitFree (oneOf choices * l) := by
  intro cs hcs c hc
  obtain ⟨rest, hdrop, -⟩ := mem_oneOf_mul_iff.mp hcs
  obtain ⟨first, hfirst, rfl⟩ := dropOne_eq_some_iff.mp hdrop
  obtain rfl : first = c := Option.some.inj hc
  simpa using List.any_eq_false.mp hchoices first hfirst

/-! ## The matcher -/

theorem isFraction_iff {cs : List Char} : isFraction cs = true ↔ cs ∈ fraction := by
  rw [fraction, mul_assoc, Language.mem_add, Language.mem_one, mem_oneOf_mul_iff]
  simp only [dropOne_eq_some_iff, List.mem_singleton, exists_eq_left, mem_digit_mul_kstar]
  cases cs with
  | nil => simp [isFraction]
  | cons c cs =>
      by_cases hdot : c = '.'
      · subst hdot
        simp [isFraction]
      · simp [isFraction, hdot]

theorem isSeconds_iff {cs : List Char} : isSeconds cs = true ↔ cs ∈ seconds := by
  rw [seconds, mul_assoc, Language.mem_add, Language.mem_one, mem_oneOf_mul_iff]
  simp only [dropOne_eq_some_iff, List.mem_singleton, exists_eq_left,
    mem_run_mul_iff mem_digit_pow_iff_isRun (Or.inl rfl), ← isFraction_iff]
  cases cs with
  | nil => simp [isSeconds]
  | cons c cs =>
      by_cases hcolon : c = ':'
      · subst hcolon
        cases hdrop : dropDigits 2 2 cs <;> simp [isSeconds, hdrop]
      · simp [isSeconds, hcolon]

/-- The reader of times accepts the words of their language. -/
theorem isTime_iff {cs : List Char} : isTime cs = true ↔ cs ∈ time := by
  have hcolon (l : Language Char) : DigitFree (oneOf [':'] * l) := digitFree_oneOf_mul (by decide) l
  simp only [time, mul_assoc, Language.mem_add, Language.mem_one, mem_oneOf_mul_iff,
    mem_run_mul_iff mem_digit_pow_iff_isRun (Or.inl rfl),
    mem_run_mul_iff mem_one_or_two_iff_isRun (Or.inr (hcolon _)), ← isSeconds_iff]
  cases cs with
  | nil => simp [isTime]
  | cons c cs =>
      simp only [isTime]
      split
      next rest hrest =>
        simp only [Option.bind_eq_bind, Option.bind_eq_some_iff] at hrest
        obtain ⟨hours, hhours, colon, hcolon, minutes, hminutes, hrest⟩ := hrest
        simp [hhours, hcolon, hminutes, hrest]
      next hnone =>
        refine iff_of_false Bool.false_ne_true ?_
        rintro (hnil | ⟨hours, hhours, colon, hcolon, minutes, hminutes, rest, hrest, -⟩)
        · cases hnil
        · simp [hhours, hcolon, hminutes, hrest] at hnone

/-- A time after a date begins with a blank or a `T`, so it cannot prolong a run of digits. -/
theorem digitFree_time : DigitFree time := by
  intro cs hcs c hc
  rw [time, Language.mem_add, Language.mem_one] at hcs
  simp only [mul_assoc] at hcs
  rcases hcs with rfl | hcs
  · cases hc
  · exact digitFree_oneOf_mul (by decide) _ cs hcs c hc

/-- The reader of dates accepts the words of their language. -/
theorem isDate_iff {cs : List Char} : isDate cs = true ↔ cs ∈ date := by
  have hhyphen (l : Language Char) : DigitFree (oneOf ['-'] * l) :=
    digitFree_oneOf_mul (by decide) l
  simp only [date, mul_assoc, mem_oneOf_mul_iff,
    mem_run_mul_iff mem_digit_pow_iff_isRun (Or.inl rfl),
    mem_run_mul_iff mem_one_or_two_iff_isRun (Or.inr (hhyphen _)),
    mem_run_mul_iff mem_one_or_two_iff_isRun (Or.inr digitFree_time), ← isTime_iff]
  simp only [isDate]
  split
  next rest hrest =>
    simp only [Option.bind_eq_bind, Option.bind_eq_some_iff] at hrest
    obtain ⟨month, ⟨hyphen, hhyphen, hmonth⟩, day, ⟨hyphen', hhyphen', hday⟩, hrest⟩ := hrest
    simp [hhyphen, hmonth, hhyphen', hday, hrest]
  next hnone =>
    refine iff_of_false Bool.false_ne_true ?_
    rintro ⟨hyphen, hhyphen, month, hmonth, hyphen', hhyphen', day, hday, rest, hrest, -⟩
    simp [hhyphen, hmonth, hhyphen', hday, hrest] at hnone

end DateText

/-- A string literal is a date string exactly if it is a date between blanks, and any other string
is a plain one. -/
theorem LiteralKind.string_is_date_iff (text : String) :
    (ofLiteral (.string text) = some .dateString ↔
      ∃ body ∈ DateText.date, Text.IsTrimOf body text.toList) ∧
    (ofLiteral (.string text) = some .string ↔
      ¬ ∃ body ∈ DateText.date, Text.IsTrimOf body text.toList) := by
  have hdate : DateText.isDate (Text.trimChars text.toList) = true ↔
      ∃ body ∈ DateText.date, Text.IsTrimOf body text.toList := by
    simp only [DateText.isDate_iff, ← Text.trimChars_eq_iff]
    exact ⟨fun hmem => ⟨_, hmem, rfl⟩, fun ⟨_, hmem, heq⟩ => heq ▸ hmem⟩
  rw [ofLiteral, ← hdate]
  split
  next htrue => simp [htrue]
  next hfalse => simp [hfalse]

end SqlAudit
