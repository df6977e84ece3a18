import Mathlib.Data.List.Forall2
import SqlAudit.Proofs.Blanks
import SqlAudit.Proofs.Numerals
import SqlAudit.RowCounts

/-! # Entries with row counts

What an entry `TABLE=ROWS` has to look like, said without the steps that read it: the first equals
sign parts the table from the number, both may have blanks around them, and the number may have a
plus sign in front and underscores anywhere. A list of entries is read as a whole, and the first
entry that does not look like this is the one that the failure names.
-/

namespace SqlAudit

namespace Text

/-- The parts before and after the first separator. -/
theorem cutChars_eq_some_iff {separator : Char} {cs before after : List Char} :
    cutChars separator cs = some (before, after) ↔ cs = before ++ separator :: after ∧
      separator ∉ before := by
  induction cs generalizing before after with
  | nil => simp [cutChars]
  | cons c cs ih =>
      unfold cutChars
      by_cases hc : c = separator
      · cases before with
        | nil => simp [hc]
        | cons d before =>
            simp only [hc, if_true, List.cons_append, List.cons.injEq, List.mem_cons]
            constructor
            · rintro ⟨⟩
            · rintro ⟨⟨rfl, -⟩, hmem⟩
              exact absurd (Or.inl rfl) hmem
      · cases before with
        | nil => simp [hc]
        | cons d before =>
            simp only [hc, if_false, Option.map_eq_some_iff, Prod.exists, ih, Prod.mk.injEq,
              List.cons_append, List.cons.injEq, List.mem_cons, not_or]
            constructor
            · rintro ⟨_, _, ⟨hcs, hmem⟩, ⟨rfl, rfl⟩, rfl⟩
              exact ⟨⟨rfl, hcs⟩, Ne.symm hc, hmem⟩
            · rintro ⟨⟨rfl, hcs⟩, -, hmem⟩
              exact ⟨_, _, ⟨hcs, hmem⟩, ⟨rfl, rfl⟩, rfl⟩

/-- A text is cut at the first separator. -/
theorem cut_eq_some_iff {separator : Char} {s before after : String} :
    cut separator s = some (before, after) ↔
      s.toList = before.toList ++ separator :: after.toList ∧ separator ∉ before.toList := by
  rw [← cutChars_eq_some_iff, cut, Option.map_eq_some_iff]
  constructor
  · rintro ⟨parts, hparts, heq⟩
    obtain ⟨rfl, rfl⟩ := Prod.mk.inj heq
    simpa using hparts
  · intro hcut
    exact ⟨_, hcut, by simp⟩

theorem trim_eq_iff {s trimmed : String} : trim s = trimmed ↔ IsTrimOf trimmed.toList s.toList := by
  rw [← trimChars_eq_iff, trim, ← String.toList_inj, String.toList_ofList]

/-- The characters are a numeral of a number below `2 ^ 64`, with or without a plus sign in front.
-/
def IsCount (cs : List Char) (n : Nat) : Prop :=
  (IsNumeral cs n ∨ ∃ digits, cs = '+' :: digits ∧ IsNumeral digits n) ∧ n < 2 ^ 64

/-- Underscores may stand anywhere in a count. -/
theorem readCount_removeChar {s : String} {n : Nat} :
    readCount (removeChar '_' s) = some n ↔ IsCount (s.toList.filter (· != '_')) n := by
  rw [readCount_eq_some_iff, removeChar, String.toList_ofList]
  rfl

end Text

namespace RowCounts

/-- The entry states the row count of a table: what stands before its first equals sign is the name
of the table with blanks around it, and what stands after it is the number, with blanks around it
and underscores in it. -/
def States (entry : String) (count : String × Nat) : Prop :=
  ∃ before after rows, entry.toList = before ++ '=' :: after ∧ '=' ∉ before ∧
    Text.IsTrimOf count.1.toList before ∧ count.1 ≠ "" ∧
    Text.IsTrimOf rows after ∧ Text.IsCount (rows.filter (· != '_')) count.2

/-- The reader accepts the entries that state a count, and gives that count. -/
theorem readEntry_eq_some_iff {entry : String} {count : String × Nat} :
    readEntry entry = some count ↔ States entry count := by
  obtain ⟨table, n⟩ := count
  unfold readEntry States
  simp only [Option.bind_eq_bind, Option.bind_eq_some_iff, Prod.exists, Text.cut_eq_some_iff]
  constructor
  · rintro ⟨before, after, ⟨hentry, hfirst⟩, hread⟩
    split at hread
    next => cases hread
    next hnonempty =>
      obtain ⟨count, hcount, heq⟩ := Option.bind_eq_some_iff.mp hread
      obtain ⟨rfl, rfl⟩ := Prod.mk.inj (Option.some.inj heq)
      exact ⟨before.toList, after.toList, (Text.trim after).toList, hentry, hfirst,
        Text.trim_eq_iff.mp rfl, by simpa using hnonempty, Text.trim_eq_iff.mp rfl,
        Text.readCount_removeChar.mp hcount⟩
  · rintro ⟨before, after, rows, hentry, hfirst, htable, hnonempty, hrows, hcount⟩
    refine ⟨String.ofList before, String.ofList after, ?_, ?_⟩
    · simpa using ⟨hentry, hfirst⟩
    · have htrim : Text.trim (String.ofList before) = table :=
        Text.trim_eq_iff.mpr (by rwa [String.toList_ofList])
      have hrest : Text.trim (String.ofList after) = String.ofList rows :=
        Text.trim_eq_iff.mpr (by rwa [String.toList_ofList, String.toList_ofList])
      have hread : Text.readCount (Text.removeChar '_' (String.ofList rows)) = some n :=
        Text.readCount_removeChar.mpr (by rwa [String.toList_ofList])
      rw [htrim, hrest, hread, if_neg (by simpa using hnonempty)]
      rfl

theorem exists_forall₂_states_iff {entries : List String} :
    (∃ counts, List.Forall₂ States entries counts) ↔
      ∀ entry ∈ entries, ∃ count, States entry count := by
  induction entries with
  | nil => simp
  | cons entry rest ih =>
      rw [List.forall_mem_cons, ← ih]
      constructor
      · rintro ⟨_, hentries⟩
        obtain ⟨count, counts, hentry, hrest, rfl⟩ := List.forall₂_cons_left_iff.mp hentries
        exact ⟨⟨count, hentry⟩, counts, hrest⟩
      · rintro ⟨⟨count, hentry⟩, counts, hrest⟩
        exact ⟨count :: counts, .cons hentry hrest⟩

/-- The entry is the first of the list that states no row count. -/
def FirstMalformed (entries : List String) (entry : String) : Prop :=
  ∃ before after, entries = before ++ entry :: after ∧
    (∀ earlier ∈ before, ∃ count, States earlier count) ∧ ¬ ∃ count, States entry count

/-- Either every entry states a count or there is a first one that does not. -/
theorem states_or_firstMalformed (entries : List String) :
    (∃ counts, List.Forall₂ States entries counts) ∨ ∃ entry, FirstMalformed entries entry := by
  induction entries with
  | nil => exact Or.inl ⟨[], .nil⟩
  | cons first rest ih =>
      by_cases hfirst : ∃ count, States first count
      · rcases ih with ⟨counts, hcounts⟩ | ⟨entry, before, after, rfl, hbefore, hentry⟩
        · obtain ⟨count, hcount⟩ := hfirst
          exact Or.inl ⟨count :: counts, .cons hcount hcounts⟩
        · exact Or.inr ⟨entry, first :: before, after, rfl,
            List.forall_mem_cons.mpr ⟨hfirst, hbefore⟩, hentry⟩
      · exact Or.inr ⟨first, [], rest, rfl, List.forall_mem_nil _, hfirst⟩

/-! ## Reading entries -/

theorem readEntries_cons_of_states {entry : String} {count : String × Nat}
    (hentry : States entry count) (rest : List String) :
    readEntries (entry :: rest) = (readEntries rest).map (count :: ·) := by
  rw [readEntries, readEntry_eq_some_iff.mpr hentry]

/-- The first malformed entry ends the reading. -/
theorem readEntries_cons_of_not_states {entry : String} (hentry : ¬ ∃ count, States entry count)
    (rest : List String) : readEntries (entry :: rest) = .error (.rowCount entry) := by
  have hread : readEntry entry = none := by
    cases hread : readEntry entry with
    | none => rfl
    | some count => exact absurd ⟨count, readEntry_eq_some_iff.mp hread⟩ hentry
  rw [readEntries, hread]

/-- The counts that entries state stand before what is read from the rest. -/
theorem readEntries_append {entries : List String} {counts : List (String × Nat)}
    (hentries : List.Forall₂ States entries counts) (rest : List String) :
    readEntries (entries ++ rest) = (readEntries rest).map (counts ++ ·) := by
  induction hentries with
  | nil => cases hrest : readEntries rest <;> simp [Except.map, hrest]
  | cons hentry _ ih =>
      rw [List.cons_append, readEntries_cons_of_states hentry, ih]
      cases readEntries rest <;> rfl

theorem readEntries_of_states {entries : List String} {counts : List (String × Nat)}
    (hentries : List.Forall₂ States entries counts) : readEntries entries = .ok counts := by
  simpa [readEntries, Except.map] using readEntries_append hentries []

theorem FirstMalformed.readEntries_eq {entries : List String} {entry : String}
    (hfirst : FirstMalformed entries entry) : readEntries entries = .error (.rowCount entry) := by
  obtain ⟨before, after, rfl, hbefore, hentry⟩ := hfirst
  obtain ⟨counts, hcounts⟩ := exists_forall₂_states_iff.mpr hbefore
  rw [readEntries_append hcounts, readEntries_cons_of_not_states hentry]
  rfl

/-- All entries state a count if the reading succeeds, and these are the counts. -/
theorem readEntries_eq_ok_iff {entries : List String} {counts : List (String × Nat)} :
    readEntries entries = .ok counts ↔ List.Forall₂ States entries counts := by
  refine ⟨fun hread => ?_, readEntries_of_states⟩
  rcases states_or_firstMalformed entries with ⟨stated, hstated⟩ | ⟨entry, hfirst⟩
  · rw [readEntries_of_states hstated] at hread
    cases hread
    exact hstated
  · rw [hfirst.readEntries_eq] at hread
    cases hread

/-- The only failure is the first malformed entry. -/
theorem readEntries_eq_error_iff {entries : List String} {failure : Failure} :
    readEntries entries = .error failure ↔
      ∃ entry, FirstMalformed entries entry ∧ failure = .rowCount entry := by
  constructor
  · intro hread
    rcases states_or_firstMalformed entries with ⟨stated, hstated⟩ | ⟨entry, hfirst⟩
    · rw [readEntries_of_states hstated] at hread
      cases hread
    · rw [hfirst.readEntries_eq] at hread
      cases hread
      exact ⟨entry, hfirst, rfl⟩
  · rintro ⟨entry, hfirst, rfl⟩
    exact hfirst.readEntries_eq

/-- Entries are read exactly if each of them has a name before its first equals sign and a number
after it, and then to these names and numbers in the order of the entries. Otherwise reading fails,
and the message names the first entry that is not like this. -/
theorem readEntries_reads_stated_counts (entries : List String) :
    ((∃ counts, readEntries entries = .ok counts) ↔
      ∀ entry ∈ entries, ∃ count, States entry count) ∧
    (∀ counts, readEntries entries = .ok counts ↔ List.Forall₂ States entries counts) ∧
    (∀ failure, readEntries entries = .error failure ↔
      ∃ entry, FirstMalformed entries entry ∧ failure = .rowCount entry) ∧
    ∀ entry, (Failure.rowCount entry).message =
      "Invalid row count '" ++ entry ++ "': expected TABLE=ROWS with a non-negative integer" := by
  refine ⟨?_, fun _ => readEntries_eq_ok_iff, fun _ => readEntries_eq_error_iff, fun _ => rfl⟩
  simp only [readEntries_eq_ok_iff, exists_forall₂_states_iff]

end RowCounts

end SqlAudit
