import Mathlib.Data.List.Infix
import Mathlib.Data.List.TakeWhile
import SqlAudit.Failure
import SqlAudit.Proofs.Blanks
import SqlAudit.Proofs.Numerals

/-! # Positions in messages about SQL text

A message about SQL text ends with the position of the fault, and the failure shows a position at
its head: the one that follows the first `Line: ` of the message. What stands before the end may be
text of the user with a `Line: ` of its own. The position of the fault is shown exactly if there is
none, or if the same position follows it.
-/

namespace SqlAudit

/-! ## First occurrences -/

namespace Text

theorem dropStart_eq_some_iff {start cs rest : List Char} :
    dropStart start cs = some rest ↔ cs = start ++ rest := by
  induction start generalizing cs with
  | nil => simp [dropStart]
  | cons c start ih =>
      cases cs with
      | nil => simp [dropStart]
      | cons d cs =>
          by_cases hc : c = d
          · simp [dropStart, hc, ih]
          · simp [dropStart, hc, Ne.symm hc]

theorem dropStart_eq_none_iff {start cs : List Char} :
    dropStart start cs = none ↔ ¬ start <+: cs := by
  rw [← Option.not_isSome_iff_eq_none, Option.isSome_iff_exists]
  exact not_congr (exists_congr fun _ => dropStart_eq_some_iff.trans eq_comm)

/-- A pattern does not occur in itself without its last character. -/
theorem not_infix_dropLast {pattern : List Char} (hne : pattern ≠ []) :
    ¬ pattern <:+: pattern.dropLast := by
  intro hoccurs
  have hlength := hoccurs.length_le
  rw [List.length_dropLast] at hlength
  have hpos := List.length_pos_iff.mpr hne
  omega

/-- The first occurrence is found if there is none that begins earlier. -/
theorem afterFirst_append {before pattern : List Char} (hne : pattern ≠ [])
    (hfirst : ¬ pattern <:+: before ++ pattern.dropLast) (rest : List Char) :
    afterFirst pattern (before ++ (pattern ++ rest)) = some rest := by
  induction before with
  | nil =>
      have hstart : dropStart pattern (pattern ++ rest) = some rest := dropStart_eq_some_iff.mpr rfl
      rw [List.nil_append]
      cases hcs : pattern ++ rest with
      | nil => exact absurd (List.append_eq_nil_iff.mp hcs).1 hne
      | cons c cs =>
          rw [hcs] at hstart
          rw [afterFirst, hstart]
  | cons c before ih =>
      rw [List.cons_append, List.infix_cons_iff, not_or] at hfirst
      -- An occurrence at the front would end before the one that is known does.
      have hstart : dropStart pattern (c :: (before ++ (pattern ++ rest))) = none := by
        refine dropStart_eq_none_iff.mpr fun hstarts => hfirst.1 ?_
        refine List.prefix_of_prefix_length_le hstarts ?_ ?_
        · rw [List.cons_prefix_cons, List.prefix_append_right_inj]
          exact ⟨rfl, (List.dropLast_prefix pattern).trans (List.prefix_append _ _)⟩
        · rw [List.length_cons, List.length_append, List.length_dropLast]
          omega
      rw [List.cons_append, afterFirst, hstart]
      exact ih hfirst.2

/-- What follows a pattern is found where the pattern occurs first, that is, where it does not occur
among the characters up to the last one of this occurrence. -/
theorem afterFirst_eq_some_iff {pattern cs rest : List Char} (hne : pattern ≠ []) :
    afterFirst pattern cs = some rest ↔
      ∃ before, cs = before ++ (pattern ++ rest) ∧ ¬ pattern <:+: before ++ pattern.dropLast := by
  constructor
  · intro hfound
    induction cs with
    | nil =>
        rw [afterFirst, dropStart_eq_some_iff] at hfound
        exact ⟨[], hfound, not_infix_dropLast hne⟩
    | cons c cs ih =>
        rw [afterFirst] at hfound
        cases hstart : dropStart pattern (c :: cs) with
        | some found =>
            rw [hstart] at hfound
            cases hfound
            have hcs : c :: cs = pattern ++ rest := dropStart_eq_some_iff.mp hstart
            exact ⟨[], hcs, not_infix_dropLast hne⟩
        | none =>
            rw [hstart] at hfound
            obtain ⟨before, rfl, hfirst⟩ := ih hfound
            refine ⟨c :: before, rfl, ?_⟩
            rw [List.cons_append, List.infix_cons_iff, not_or]
            refine ⟨fun hstarts => dropStart_eq_none_iff.mp hstart (hstarts.trans ?_), hfirst⟩
            rw [List.cons_prefix_cons, List.prefix_append_right_inj]
            exact ⟨rfl, (List.dropLast_prefix pattern).trans (List.prefix_append _ _)⟩
  · rintro ⟨before, rfl, hfirst⟩
    exact afterFirst_append hne hfirst rest

/-- Nothing is found exactly if the pattern does not occur. -/
theorem afterFirst_eq_none_iff {pattern cs : List Char} :
    afterFirst pattern cs = none ↔ ¬ pattern <:+: cs := by
  induction cs with
  | nil => simp [afterFirst, dropStart_eq_none_iff]
  | cons c cs ih =>
      rw [List.infix_cons_iff, not_or, ← ih, ← dropStart_eq_none_iff, afterFirst]
      cases dropStart pattern (c :: cs) <;> simp

theorem exists_afterFirst {pattern cs : List Char} (hoccurs : pattern <:+: cs) :
    ∃ rest, afterFirst pattern cs = some rest := by
  rw [← Option.isSome_iff_exists, Option.isSome_iff_ne_none]
  exact fun hnone => afterFirst_eq_none_iff.mp hnone hoccurs

/-- An occurrence that is found is found in every longer text as well. -/
theorem afterFirst_append_right {pattern cs rest : List Char} (hne : pattern ≠ [])
    (hfound : afterFirst pattern cs = some rest) (more : List Char) :
    afterFirst pattern (cs ++ more) = some (rest ++ more) := by
  rw [afterFirst_eq_some_iff hne] at *
  obtain ⟨before, rfl, hfirst⟩ := hfound
  exact ⟨before, by simp, hfirst⟩

/-! ## Runs of digits -/

theorem isNumeral_toString (n : Nat) : IsNumeral (toString n).toList n := by
  have hdigits : (toString n).toList = Nat.toDigits 10 n := by
    rw [Nat.toString_eq_ofList_toDigits, String.toList_ofList]
  rw [hdigits]
  refine ⟨Nat.toDigits_ne_nil, fun c => Nat.isDigit_of_mem_toDigits (by decide) (by decide), ?_⟩
  rw [← digitsValue_eq_ofDigits, digitsValue, ← Nat.ofDigitChars_eq_foldl,
    Nat.ofDigitChars_ten_toDigits]

theorem IsNumeral.isDigit_head {cs : List Char} {n : Nat} (hcs : IsNumeral cs n)
    (rest : List Char) :
    ∀ c ∈ (cs ++ rest).head?, c.isDigit = true := by
  cases cs with
  | nil => exact absurd rfl hcs.ne_nil
  | cons d cs =>
      rintro c ⟨⟩
      exact hcs.digits d List.mem_cons_self

/-- A number is read from the front of the characters if they begin with a numeral. -/
theorem readDigits_takeWhile_eq_some_iff {cs : List Char} {n : Nat} :
    readDigits (cs.takeWhile Char.isDigit) = some n ↔
      ∃ digits rest, cs = digits ++ rest ∧ (IsNumeral digits n ∧ n < 2 ^ 64) ∧
        ∀ c ∈ rest.head?, c.isDigit = false := by
  rw [readDigits_eq_some_iff]
  constructor
  · intro hnumeral
    exact ⟨_, cs.dropWhile Char.isDigit, List.takeWhile_append_dropWhile.symm, hnumeral,
      head_dropWhile _ cs⟩
  · rintro ⟨digits, rest, rfl, hnumeral, hrest⟩
    rwa [takeWhile_append_of_head hnumeral.1.digits hrest]

end Text

namespace Position

/-! ## Mentioned positions -/

/-- The word before the line of a position. -/
def marker : List Char :=
  "Line: ".toList

/-- The characters are the number of a line, the word `Column`, a colon or none, any blanks and the
number of a column. -/
def IsWritten (cs : List Char) (p : Position) : Prop :=
  ∃ line colon blanks column, cs = line ++ (", Column".toList ++ (colon ++ (blanks ++ column))) ∧
    (Text.IsNumeral line p.line ∧ p.line < 2 ^ 64) ∧ (colon = [] ∨ colon = [':']) ∧
    (∀ c ∈ blanks, Text.isBlank c = true) ∧ (Text.IsNumeral column p.column ∧ p.column < 2 ^ 64)

/-- The characters begin with the position, and no digit follows that would belong to its column. -/
def WrittenFirst (cs : List Char) (p : Position) : Prop :=
  ∃ written after, cs = written ++ after ∧ IsWritten written p ∧
    ∀ c ∈ after.head?, c.isDigit = false

/-- The first place where the message has the word before a line is followed by the position. -/
def MentionedFirst (message : List Char) (p : Position) : Prop :=
  ∃ before rest, message = before ++ (marker ++ rest) ∧ ¬ marker <:+: before ++ marker.dropLast ∧
    WrittenFirst rest p

/-- The position that the characters begin with. -/
def read? (cs : List Char) : Option Position := do
  let line ← Text.readDigits (cs.takeWhile Char.isDigit)
  let rest ← Text.dropStart ", Column".toList (cs.drop (cs.takeWhile Char.isDigit).length)
  let column ← Text.readDigits
    ((((Text.dropStart [':'] rest).getD rest).dropWhile Text.isBlank).takeWhile Char.isDigit)
  pure ⟨line, column⟩

theorem ofMessage?_eq (message : String) :
    ofMessage? message = (Text.afterFirst marker message.toList).bind read? :=
  rfl

theorem marker_ne_nil : marker ≠ [] := by
  decide

/-- A column is read behind a colon or none and any blanks. -/
theorem readColumn_eq_some_iff {rest : List Char} {n : Nat} :
    Text.readDigits ((((Text.dropStart [':'] rest).getD rest).dropWhile Text.isBlank).takeWhile
      Char.isDigit) =
        some n ↔
      ∃ colon blanks column after, rest = colon ++ (blanks ++ (column ++ after)) ∧
        (colon = [] ∨ colon = [':']) ∧
        (∀ c ∈ blanks, Text.isBlank c = true) ∧ (Text.IsNumeral column n ∧ n < 2 ^ 64) ∧
        ∀ c ∈ after.head?, c.isDigit = false := by
  rw [Text.readDigits_takeWhile_eq_some_iff]
  constructor
  · rintro ⟨column, after, hcolumn, hnumeral, hafter⟩
    obtain ⟨colon, hrest, hcolon⟩ : ∃ colon, rest = colon ++ (Text.dropStart [':'] rest).getD rest ∧
        (colon = [] ∨ colon = [':']) := by
      cases hstart : Text.dropStart [':'] rest with
      | none => exact ⟨[], rfl, Or.inl rfl⟩
      | some found => exact ⟨[':'], Text.dropStart_eq_some_iff.mp hstart, Or.inr rfl⟩
    refine ⟨colon, ((Text.dropStart [':'] rest).getD rest).takeWhile Text.isBlank, column,
      after, ?_, hcolon, fun c => List.mem_takeWhile_imp, hnumeral, hafter⟩
    rw [← hcolumn, List.takeWhile_append_dropWhile, ← hrest]
  · rintro ⟨colon, blanks, column, after, rfl, hcolon, hblanks, hnumeral, hafter⟩
    refine ⟨column, after, ?_, hnumeral, hafter⟩
    -- Neither a blank nor a digit is a colon, so what is taken off in front is the colon or
    -- nothing.
    have hstart : (Text.dropStart [':'] (colon ++ (blanks ++ (column ++ after)))).getD
        (colon ++ (blanks ++ (column ++ after))) = blanks ++ (column ++ after) := by
      rcases hcolon with rfl | rfl
      · have hnone : Text.dropStart [':'] (blanks ++ (column ++ after)) = none := by
          rw [Text.dropStart_eq_none_iff]
          rintro ⟨rest, hrest⟩
          cases blanks with
          | nil =>
              have hdigit := hnumeral.1.isDigit_head after ':'
              rw [List.nil_append] at hrest
              rw [← hrest] at hdigit
              exact absurd (hdigit rfl) (by decide)
          | cons c blanks =>
              obtain ⟨rfl, -⟩ := List.cons.inj hrest
              exact absurd (hblanks ':' List.mem_cons_self) (by decide)
        rw [List.nil_append, hnone, Option.getD_none]
      · rw [Text.dropStart_eq_some_iff.mpr rfl, Option.getD_some]
    rw [hstart]
    refine Text.dropWhile_append_of_head hblanks fun c hc => ?_
    exact Text.not_isBlank_of_isDigit (hnumeral.1.isDigit_head after c hc)

/-- The reader finds a position written at the front. -/
theorem read?_eq_some_iff {cs : List Char} {p : Position} :
    read? cs = some p ↔ WrittenFirst cs p := by
  obtain ⟨line, column⟩ := p
  have hdrop : cs.drop (cs.takeWhile Char.isDigit).length = cs.dropWhile Char.isDigit :=
    calc cs.drop (cs.takeWhile Char.isDigit).length
        = (cs.takeWhile Char.isDigit ++ cs.dropWhile Char.isDigit).drop
          (cs.takeWhile Char.isDigit).length := by
          rw [List.takeWhile_append_dropWhile]
      _ = cs.dropWhile Char.isDigit := List.drop_left
  rw [read?, hdrop]
  simp only [Option.bind_eq_bind, Option.bind_eq_some_iff, Text.dropStart_eq_some_iff,
    readColumn_eq_some_iff]
  constructor
  · rintro ⟨_, hline, _, hrest, _,
      ⟨colon, blanks, digits, after, rfl, hcolon, hblanks, hcolumn, hafter⟩, ⟨⟩⟩
    refine ⟨_, after, ?_, ⟨cs.takeWhile Char.isDigit, colon, blanks, digits, rfl,
      Text.readDigits_eq_some_iff.mp hline, hcolon, hblanks, hcolumn⟩, hafter⟩
    simp only [List.append_assoc, ← hrest, List.takeWhile_append_dropWhile]
  · rintro ⟨_, after, hcs, ⟨digits, colon, blanks, columnDigits, rfl, hline, htail⟩, hafter⟩
    have hcomma : ∀ c ∈ (", Column".toList ++ (colon ++ (blanks ++ (columnDigits ++ after)))).head?,
        c.isDigit = false := by
      simp
    simp only [List.append_assoc] at hcs
    rw [hcs, Text.takeWhile_append_of_head hline.1.digits hcomma,
      Text.dropWhile_append_of_head hline.1.digits hcomma]
    obtain ⟨hcolon, hblanks, hcolumn⟩ := htail
    exact ⟨line, Text.readDigits_eq_some_iff.mpr hline, _, rfl, column,
      ⟨colon, blanks, columnDigits, after, rfl, hcolon, hblanks, hcolumn, hafter⟩, rfl⟩

/-- Only what follows the first marker counts. -/
theorem mentionedFirst_iff {message : List Char} {p : Position} :
    MentionedFirst message p ↔ ∃ rest, Text.afterFirst marker message = some rest ∧
      WrittenFirst rest p := by
  simp only [Text.afterFirst_eq_some_iff marker_ne_nil, MentionedFirst]
  constructor
  · rintro ⟨before, rest, hmessage, hfirst, hrest⟩
    exact ⟨rest, ⟨before, hmessage, hfirst⟩, hrest⟩
  · rintro ⟨rest, ⟨before, hmessage, hfirst⟩, hrest⟩
    exact ⟨before, rest, hmessage, hfirst, hrest⟩

/-- The position that a message is taken to mention is the one that it mentions first. -/
theorem ofMessage?_eq_some_iff {message : String} {p : Position} :
    ofMessage? message = some p ↔ MentionedFirst message.toList p := by
  rw [ofMessage?_eq, Option.bind_eq_some_iff, mentionedFirst_iff]
  simp only [read?_eq_some_iff]

/-! ## Positions at the end -/

/-- A written position holds no `a`, so none reaches into an ending. -/
theorem IsWritten.not_mem {cs : List Char} {p : Position} (hcs : IsWritten cs p) : 'a' ∉ cs := by
  obtain ⟨line, colon, blanks, column, rfl, hline, hcolon, hblanks, hcolumn⟩ := hcs
  have hnumber {digits : List Char} {n : Nat} (hdigits : Text.IsNumeral digits n) : 'a' ∉ digits :=
    fun hmem => absurd (hdigits.digits 'a' hmem) (by decide)
  have hblank : 'a' ∉ blanks := fun hmem => absurd (hblanks 'a' hmem) (by decide)
  have hcolons : 'a' ∉ colon := by rcases hcolon with rfl | rfl <;> decide
  have hword : 'a' ∉ ", Column".toList := by decide
  simp only [List.mem_append, not_or]
  exact ⟨hnumber hline.1, hword, hcolons, hblank, hnumber hcolumn.1⟩

theorem IsWritten.isDigit_last {cs : List Char} {p : Position} (hcs : IsWritten cs p) :
    ∀ c ∈ cs.getLast?, c.isDigit = true := by
  obtain ⟨line, colon, blanks, column, rfl, -, -, -, hcolumn⟩ := hcs
  intro c hc
  simp only [← List.append_assoc] at hc
  rw [List.getLast?_append_of_ne_nil _ hcolumn.1.ne_nil] at hc
  exact hcolumn.1.digits c (List.mem_of_getLast? hc)

/-- A blank and a letter that no position has do not add to what is written before them. -/
theorem writtenFirst_append_iff {cs : List Char} {p : Position} (more : List Char) :
    WrittenFirst (cs ++ ' ' :: 'a' :: more) p ↔ WrittenFirst cs p := by
  constructor
  · rintro ⟨written, after, hcs, hwritten, hafter⟩
    rcases List.append_eq_append_iff.mp hcs with ⟨_ | ⟨c, tail⟩, hover, hmore⟩ | ⟨between, rfl, rfl⟩
    · exact ⟨cs, [], by simp, by simpa [hover] using hwritten, by simp⟩
    · -- The position would have to end with the blank or go on with the letter.
      obtain ⟨rfl, htail⟩ := List.cons.inj hmore
      cases tail with
      | nil => exact absurd (hwritten.isDigit_last ' ' (by simp [hover])) (by decide)
      | cons d tail =>
          obtain ⟨rfl, -⟩ := List.cons.inj htail
          exact absurd (by simp [hover]) hwritten.not_mem
    · refine ⟨written, between, rfl, hwritten, fun c hc => hafter c ?_⟩
      rw [List.head?_append, Option.mem_def.mp hc]
      rfl
  · rintro ⟨written, after, rfl, hwritten, hafter⟩
    refine ⟨written, after ++ ' ' :: 'a' :: more, by simp, hwritten, ?_⟩
    cases after with
    | nil =>
        rintro c ⟨⟩
        rfl
    | cons c after => exact hafter

/-- Characters that begin with a letter do not begin with a position. -/
theorem not_writtenFirst_cons {cs : List Char} {p : Position} : ¬ WrittenFirst ('a' :: cs) p := by
  rintro ⟨_, after, hcs, ⟨line, colon, blanks, column, rfl, hline, -⟩, -⟩
  have hdigit :=
    hline.1.isDigit_head (", Column".toList ++ (colon ++ (blanks ++ column)) ++ after) 'a'
  rw [← List.append_assoc, ← hcs] at hdigit
  exact absurd (hdigit rfl) (by decide)

/-- How a message ends that gives a position. -/
def ending (p : Position) (separator : String) : String :=
  " at Line: " ++ toString p.line ++ separator ++ toString p.column

theorem toList_ending (p : Position) (separator : String) :
    (p.ending separator).toList =
      " at Line: ".toList ++
        ((toString p.line).toList ++ (separator.toList ++ (toString p.column).toList)) := by
  simp only [ending, String.toList_append, List.append_assoc]

section Endings

variable {message : List Char} {p : Position} {separator : String}

/-- Both ways of writing the column give a position that can be read. -/
theorem isWritten_ending (hseparator : separator = ", Column: " ∨ separator = ", Column ")
    (hline : p.line < 2 ^ 64) (hcolumn : p.column < 2 ^ 64) :
    IsWritten ((toString p.line).toList ++ (separator.toList ++ (toString p.column).toList)) p := by
  have hblank : ∀ c ∈ [' '], Text.isBlank c = true := List.forall_mem_singleton.mpr (by decide)
  rcases hseparator with rfl | rfl
  · exact ⟨_, [':'], [' '], _, rfl, ⟨Text.isNumeral_toString _, hline⟩, Or.inr rfl, hblank,
      Text.isNumeral_toString _, hcolumn⟩
  · exact ⟨_, [], [' '], _, rfl, ⟨Text.isNumeral_toString _, hline⟩, Or.inl rfl, hblank,
      Text.isNumeral_toString _, hcolumn⟩

/-- The word before a line reaches from a message into its ending with the first blank at most. -/
theorem infix_of_infix_append (hoccurs : marker <:+: message ++ " at Line:".toList) :
    marker <:+: message ++ [' '] := by
  have hending : message ++ " at Line:".toList = (message ++ [' ']) ++ 'a' :: "t Line:".toList := by
    rw [List.append_assoc]
    rfl
  rw [hending] at hoccurs
  rcases List.infix_append_iff.mp hoccurs with
    hmessage | hword | ⟨first, second, hmarker, hfirst, hsecond⟩
  · exact hmessage
  · exact absurd hword (by decide)
  · cases second with
    | nil =>
        rw [List.append_nil] at hmarker
        exact hmarker ▸ hfirst.isInfix
    | cons c second =>
        obtain ⟨rfl, -⟩ := List.cons_prefix_cons.mp hsecond
        have hmem : 'a' ∈ marker := by simp [hmarker]
        exact absurd hmem (by decide)

/-- The ending is found if the message before it has no marker. -/
theorem mentionedFirst_of_not_infix
    (hseparator : separator = ", Column: " ∨ separator = ", Column ") (hline : p.line < 2 ^ 64)
    (hcolumn : p.column < 2 ^ 64) (hmessage : ¬ marker <:+: message ++ [' ']) :
    MentionedFirst (message ++ (p.ending separator).toList) p := by
  rw [toList_ending]
  refine ⟨message ++ " at ".toList, _, ?_, fun hoccurs => hmessage (infix_of_infix_append ?_),
    ⟨_, [], (List.append_nil _).symm, isWritten_ending hseparator hline hcolumn, by simp⟩⟩
  · rw [List.append_assoc]
    rfl
  · rwa [List.append_assoc] at hoccurs

/-- Where the word before a line occurs already, the ending is not looked at. -/
theorem mentionedFirst_append_iff (hmessage : marker <:+: message ++ [' ']) (q : Position) :
    MentionedFirst (message ++ (p.ending separator).toList) q ↔ MentionedFirst message q := by
  obtain ⟨more, hending⟩ : ∃ more, (p.ending separator).toList = ' ' :: 'a' :: more :=
    ⟨_, toList_ending p separator⟩
  rw [hending, mentionedFirst_iff, mentionedFirst_iff]
  by_cases hown : marker <:+: message
  · obtain ⟨rest, hrest⟩ := Text.exists_afterFirst hown
    simp [hrest, Text.afterFirst_append_right marker_ne_nil hrest, writtenFirst_append_iff]
  · -- The occurrence ends with the blank, and a letter follows it.
    obtain ⟨rest, hrest⟩ := Text.exists_afterFirst hmessage
    obtain rfl : rest = [] := by
      obtain ⟨before, hsplit, -⟩ := (Text.afterFirst_eq_some_iff marker_ne_nil).mp hrest
      rcases List.eq_nil_or_concat rest with rfl | ⟨rest, c, rfl⟩
      · rfl
      · rw [List.concat_eq_append, ← List.append_assoc, ← List.append_assoc] at hsplit
        obtain ⟨rfl, -⟩ := List.append_inj' hsplit rfl
        exact absurd (List.infix_append _ _ _) hown
    have hfound := Text.afterFirst_append_right marker_ne_nil hrest ('a' :: more)
    rw [List.append_assoc] at hfound
    rw [Text.afterFirst_eq_none_iff.mpr hown]
    simp only [List.cons_append, List.nil_append] at hfound
    simp [hfound, not_writtenFirst_cons]

/-- The position `q` is the first one of a quoted text and the ending with `p`. If the word before a
line occurs in the quoted text, or across its end with the blank that the ending begins with, then
only the quoted text counts. -/
def IsFirst (p : Position) (quoted : String) (q : Position) : Prop :=
  if marker <:+: quoted.toList ++ [' '] then MentionedFirst quoted.toList q else q = p

/-- The position that is found in a message with an ending: the first one, which may be quoted. -/
theorem ofMessage?_ending_iff (quoted : String)
    (hseparator : separator = ", Column: " ∨ separator = ", Column ") (hline : p.line < 2 ^ 64)
    (hcolumn : p.column < 2 ^ 64) (q : Position) :
    ofMessage? (quoted ++ p.ending separator) = some q ↔ p.IsFirst quoted q := by
  by_cases hquoted : marker <:+: quoted.toList ++ [' ']
  · rw [ofMessage?_eq_some_iff, String.toList_append, mentionedFirst_append_iff hquoted, IsFirst,
      if_pos hquoted]
  · have hfirst := mentionedFirst_of_not_infix hseparator hline hcolumn hquoted
    rw [← String.toList_append, ← ofMessage?_eq_some_iff] at hfirst
    rw [hfirst, IsFirst, if_neg hquoted, Option.some_inj, eq_comm]

end Endings

end Position

/-! ## Positions at the head of a failure -/

/-- Two printed numbers before the same character that is no digit. -/
theorem Text.toString_append_prefix_iff {m n : Nat} {c : Char} (hc : c.isDigit = false)
    {rest rest' : List Char} :
    (toString m).toList ++ c :: rest <+: (toString n).toList ++ c :: rest' ↔
      m = n ∧ rest <+: rest' := by
  constructor
  · rintro ⟨more, hmore⟩
    rw [List.append_assoc, List.cons_append] at hmore
    have hhead (cs : List Char) : ∀ d ∈ (c :: cs).head?, d.isDigit = false := by
      rintro d ⟨⟩
      exact hc
    have hdigits := congrArg (List.takeWhile Char.isDigit) hmore
    rw [takeWhile_append_of_head (isNumeral_toString m).digits (hhead _),
      takeWhile_append_of_head (isNumeral_toString n).digits (hhead _)] at hdigits
    obtain rfl : m = n := (isNumeral_toString m).unique (hdigits ▸ isNumeral_toString n)
    exact ⟨rfl, more, (List.cons.inj (List.append_cancel_left hmore)).2⟩
  · rintro ⟨rfl, hrest⟩
    rwa [List.prefix_append_right_inj, List.cons_prefix_cons, and_iff_right rfl]

namespace Failure

/-- How a failure begins that shows a position. -/
def headline (title : String) (p : Position) : String :=
  title ++ " at line " ++ toString p.line ++ ", column " ++ toString p.column ++ ":"

theorem suffix_sqlMessage (title message : String) :
    message.toList <:+ (sqlMessage title message).toList := by
  unfold sqlMessage
  split <;> simp only [String.toList_append] <;> exact List.suffix_append _ _

/-- The headline shows the position that the message mentions first. -/
theorem headline_prefix_iff {title message : String} {q : Position} :
    (headline title q).toList <+: (sqlMessage title message).toList ↔
      Position.ofMessage? message = some q := by
  cases hmessage : Position.ofMessage? message with
  | none =>
      simp only [headline, sqlMessage, hmessage, String.toList_append, List.append_assoc,
        List.prefix_append_right_inj]
      simp
  | some p =>
      have hcomma : ", column ".toList = ',' :: " column ".toList := rfl
      have hcolon : ":".toList = ':' :: [] := rfl
      have hbreak : ":\n  ".toList = ':' :: "\n  ".toList := rfl
      simp only [headline, sqlMessage, hmessage, String.toList_append, List.append_assoc,
        List.prefix_append_right_inj, hcomma, hcolon, hbreak, List.cons_append]
      rw [Text.toString_append_prefix_iff (by decide), List.prefix_append_right_inj,
        Text.toString_append_prefix_iff (by decide), and_iff_left List.nil_prefix, Option.some_inj,
        eq_comm, Position.mk.injEq, eq_comm, @eq_comm _ p.column]

/-- A failure about SQL text shows the position at the end of its message if the quoted text before
it neither has the word before a line nor ends with it up to the blank. Otherwise it shows the
position that the quoted text mentions first, and none if there the word is not followed by one. -/
theorem message_shows_first_position (quoted : String) (p : Position) {separator : String}
    (hseparator : separator = ", Column: " ∨ separator = ", Column ") (hline : p.line < 2 ^ 64)
    (hcolumn : p.column < 2 ^ 64) :
    let message := quoted ++ p.ending separator
    (message.toList <:+ (script message).message.toList ∧
      ∀ q, (headline "Query parse error" q).toList <+: (script message).message.toList ↔
        p.IsFirst quoted q) ∧
    (message.toList <:+ (schema message).message.toList ∧
      ∀ q, (headline "Schema parse error" q).toList <+: (schema message).message.toList ↔
        p.IsFirst quoted q) := by
  intro message
  have hfirst := Position.ofMessage?_ending_iff quoted hseparator hline hcolumn
  have hshows (title : String) : message.toList <:+ (sqlMessage title message).toList ∧
      ∀ q, (headline title q).toList <+: (sqlMessage title message).toList ↔ p.IsFirst quoted q :=
    ⟨suffix_sqlMessage title message, fun q => headline_prefix_iff.trans (hfirst q)⟩
  exact ⟨hshows "Query parse error", hshows "Schema parse error"⟩

/-- The quoted text has the word before a line without its blank. -/
theorem message_shows_first_position_partial_word :
    let p : Position := ⟨2 ^ 64 - 1, 3⟩
    let message := "sql parser error: Expected: ), found: Line:7" ++ p.ending ", Column "
    (headline "Query parse error" p).toList <+: (script message).message.toList ∧
      (headline "Schema parse error" p).toList <+: (schema message).message.toList := by
  intro p message
  have hfirst : p.IsFirst "sql parser error: Expected: ), found: Line:7" p := by
    rw [Position.IsFirst, if_neg (by decide)]
  obtain ⟨⟨-, hscript⟩, -, hschema⟩ :=
    message_shows_first_position "sql parser error: Expected: ), found: Line:7" p
    (Or.inr rfl) (by decide) (by decide)
  exact ⟨(hscript p).mpr hfirst, (hschema p).mpr hfirst⟩

/-- The quoted text is a string literal of the user that looks like a position. -/
theorem quoted_position_shown :
    let message := "sql parser error: Expected: an SQL statement, found: 'Line: 9, Column: 9'" ++
      Position.ending ⟨1, 1⟩ ", Column: "
    ¬ (headline "Query parse error" ⟨1, 1⟩).toList <+: (script message).message.toList ∧
      (headline "Query parse error" ⟨9, 9⟩).toList <+: (script message).message.toList := by
  intro message
  have hposition : Position.ofMessage? message = some ⟨9, 9⟩ := by decide +kernel
  refine ⟨fun hshown => ?_, headline_prefix_iff.mpr hposition⟩
  have hother := headline_prefix_iff.mp hshown
  rw [hposition] at hother
  exact absurd hother (by decide)

end Failure

end SqlAudit
