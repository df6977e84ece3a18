import SqlAudit.Proofs.Blanks
import SqlAudit.Proofs.IndexedColumns
import SqlAudit.Proofs.KeyColumns

/-! # Base names of types

A declared type is reduced to a base name by two tables, one of phrases and one of words. No base
name is a word that stands for another one, and none has a blank in it as phrases do, so reducing it
again changes nothing. The base name depends on the words in front of the arguments only, up to the
case of letters. What a schema stores as the type of a column always comes from such a reduction.
-/

namespace SqlAudit

/-! ## Capital letters -/

namespace Text

theorem not_isBlank_of_isAlpha {c : Char} (hc : c.isAlpha = true) : isBlank c = false := by
  have hbounds : 65 ≤ c.toNat ∧ c.toNat ≤ 90 ∨ 97 ≤ c.toNat ∧ c.toNat ≤ 122 := by
    simpa [Char.isAlpha, Char.isUpper, Char.isLower, UInt32.le_iff_toNat_le] using hc
  exact not_isBlank_of_toNat (by omega) (by omega)

/-- A test that no letter passes does not tell a character from its capital. -/
theorem apply_toUpper {p : Char → Bool} (hp : ∀ c, c.isAlpha = true → p c = false) (c : Char) :
    p c.toUpper = p c := by
  by_cases hc : c.isAlpha = true
  · have hupper : c.toUpper.isAlpha = true := by
      rw [Char.isAlpha, c.isUpper_toUpper_eq_isAlpha, hc, Bool.true_or]
    rw [hp c hc, hp _ hupper]
  · have hlower : ¬ c.isLower = true := by
      intro hlower
      rw [Char.isAlpha, hlower, Bool.or_true] at hc
      exact hc rfl
    rw [Char.toUpper_eq_of_not_isLower hlower]

theorem isBlank_toUpper (c : Char) : isBlank c.toUpper = isBlank c :=
  apply_toUpper (fun _ => not_isBlank_of_isAlpha) c

/-- Capital letters change no blank, so the words keep their places. -/
theorem Spaced.map_toUpper {words : List (List Char)} {cs : List Char} (hcs : Spaced words cs) :
    Spaced (words.map (List.map Char.toUpper)) (cs.map Char.toUpper) := by
  induction hcs with
  | blanks hgap => exact .blanks (by simpa [isBlank_toUpper] using hgap)
  | word hgap hne hword hnext _ ih =>
      rw [List.map_cons, List.map_append, List.map_append]
      refine .word ?_ ?_ ?_ ?_ ih
      · simpa [isBlank_toUpper] using hgap
      · simpa using hne
      · simpa [isBlank_toUpper] using hword
      · simpa [isBlank_toUpper] using hnext

theorem Spaced.mem_and_not_isBlank {words : List (List Char)} {cs w : List Char}
    (hcs : Spaced words cs) (hmem : w ∈ words) : ∀ c ∈ w, c ∈ cs ∧ isBlank c = false := by
  induction hcs with
  | blanks => cases hmem
  | word _ _ hword _ _ ih =>
      intro c hc
      rcases List.mem_cons.mp hmem with rfl | hmem
      · exact ⟨by simp [hc], hword c hc⟩
      · obtain ⟨hrest, hblank⟩ := ih hmem c hc
        exact ⟨by simp [hrest], hblank⟩

/-- The first piece is all that stands before the separator. -/
theorem head?_splitChars (separator : Char) (cs : List Char) :
    (splitChars separator cs).head? = some (cs.takeWhile (· != separator)) := by
  induction cs with
  | nil => rfl
  | cons c cs ih =>
      unfold splitChars
      by_cases hc : c = separator
      · simp [hc]
      · cases hpieces : splitChars separator cs with
        | nil => simp [hpieces] at ih
        | cons piece rest =>
            rw [hpieces, List.head?_cons, Option.some_inj] at ih
            simp [hc, ih]

end Text

namespace TypeName

/-! ## Words before the arguments -/

/-- Capitals begin the arguments where the declared type does. -/
theorem toUpper_ne_open (c : Char) : (c.toUpper != '(') = (c != '(') := by
  have hopen (d : Char) (hd : d.isAlpha = true) : (d == '(') = false := by
    rw [beq_eq_false_iff_ne]
    rintro rfl
    cases hd
  rw [bne, bne, Text.apply_toUpper hopen]

/-- The base name that some words stand for. -/
def foldWords (words : List String) : String :=
  match phraseBase (Text.joinWith " " words) with
  | some base => base
  | none => wordBase (words.head?.getD "")

/-- The words before the arguments of a declared type, in capitals. -/
def leadingWords (declared : String) : List (List Char) :=
  Text.wordsFrom [] ((declared.toList.takeWhile (· != '(')).map Char.toUpper)

/-- Only the words before an opening parenthesis count. -/
theorem normalize_eq (declared : String) :
    normalize declared = foldWords ((leadingWords declared).map String.ofList) := by
  have hopen : (· != '(') ∘ Char.toUpper = (· != '(') := funext toUpper_ne_open
  have hbase : ((Text.splitOn '(' (Text.upper declared)).head?).getD "" =
      String.ofList ((declared.toList.takeWhile (· != '(')).map Char.toUpper) := by
    rw [Text.splitOn, List.head?_map, Text.head?_splitChars, Text.upper, String.toList_ofList,
      List.takeWhile_map, hopen]
    rfl
  unfold normalize
  rw [hbase, Text.words, String.toList_ofList]
  rfl

/-! ## Base names -/

/-- The text has neither small letters nor blanks nor an opening parenthesis. -/
def IsPlainName (name : String) : Prop :=
  ∀ c ∈ name.toList, c.isLower = false ∧ Text.isBlank c = false ∧ c ≠ '('

/-- The base names that the two tables give. -/
def foldedNames : List String :=
  ["VARCHAR", "DOUBLE", "INT", "BIGINT", "SMALLINT", "BOOLEAN", "DECIMAL", "CHAR", "REAL",
    "TIMESTAMP"]

/-- Every base name is a plain word that stands for itself. -/
theorem foldedNames_plain : ∀ name ∈ foldedNames, IsPlainName name ∧ wordBase name = name := by
  have hcapitals : ∀ name ∈ foldedNames, ∀ c ∈ name.toList, c.isUpper = true := by
    simp [foldedNames, Char.isUpper]
  have hplain : ∀ name ∈ foldedNames, IsPlainName name := by
    intro name hname c hc
    have hcapital := hcapitals name hname c hc
    refine ⟨?_, Text.not_isBlank_of_isAlpha ?_, ?_⟩
    · simpa using Char.not_isLower_of_isUpper hcapital
    · rw [Char.isAlpha, hcapital, Bool.true_or]
    · rintro rfl
      cases hcapital
  have hwords : ∀ name ∈ foldedNames, wordBase name = name := by simp [foldedNames, wordBase]
  exact fun name hname => ⟨hplain name hname, hwords name hname⟩

theorem wordBase_cases (word : String) : wordBase word ∈ foldedNames ∨ wordBase word = word := by
  fun_cases wordBase word <;> simp [foldedNames]

theorem phraseBase_mem {phrase base : String} (hbase : phraseBase phrase = some base) :
    base ∈ foldedNames := by
  revert hbase
  fun_cases phraseBase phrase <;> simp +contextual [foldedNames]

/-- A phrase has a blank between its words. -/
theorem phraseBase_of_no_blank {phrase : String}
    (hblank : ∀ c ∈ phrase.toList, Text.isBlank c = false) :
    phraseBase phrase = none := by
  fun_cases phraseBase phrase with
  | case5 => rfl
  | _ => exact absurd (hblank ' ' (by decide +kernel)) (by decide)

/-- A name that no table folds is its own base name. -/
theorem normalize_eq_self {name : String} (hplain : IsPlainName name)
    (hword : wordBase name = name) :
    normalize name = name := by
  have hupper : name.toList.map Char.toUpper = name.toList := by
    refine (List.map_congr_left fun c hc => ?_).trans (List.map_id _)
    exact Char.toUpper_eq_of_not_isLower (by simp [(hplain c hc).1])
  have hbase : name.toList.takeWhile (· != '(') = name.toList :=
    List.takeWhile_eq_self_iff.mpr fun c hc => bne_iff_ne.mpr (hplain c hc).2.2
  have hblank : ∀ c ∈ name.toList, Text.isBlank c = false := fun c hc => (hplain c hc).2.1
  rw [normalize_eq, leadingWords, hbase, hupper]
  by_cases hempty : name.toList = []
  · obtain rfl := String.toList_eq_nil_iff.mp hempty
    decide +kernel
  · have hone : Text.Spaced [name.toList] (name.toList ++ []) :=
      .cons_word hempty hblank (by simp) (.blanks (by simp))
    rw [List.append_nil] at hone
    rw [hone.wordsFrom_eq, List.map_singleton, String.ofList_toList, foldWords, Text.joinWith,
      phraseBase_of_no_blank hblank]
    exact hword

/-- Folding plain words gives one plain word, which no further folding changes. -/
theorem foldWords_plain {words : List String} (hwords : ∀ w ∈ words, IsPlainName w) :
    IsPlainName (foldWords words) ∧ wordBase (foldWords words) = foldWords words := by
  unfold foldWords
  split
  next base hbase => exact foldedNames_plain base (phraseBase_mem hbase)
  next =>
    rcases wordBase_cases (words.head?.getD "") with hfolded | hsame
    · exact foldedNames_plain _ hfolded
    · rw [hsame, hsame]
      refine ⟨?_, rfl⟩
      cases words with
      | nil => exact fun _ hc => absurd hc (by simp)
      | cons w _ => exact hwords w List.mem_cons_self

theorem leadingWords_plain (declared : String) :
    ∀ w ∈ (leadingWords declared).map String.ofList, IsPlainName w := by
  intro w hw c hc
  obtain ⟨word, hword, rfl⟩ := List.mem_map.mp hw
  rw [String.toList_ofList] at hc
  obtain ⟨hmem, hblank⟩ := (Text.spaced_iff.mpr rfl).mem_and_not_isBlank hword c hc
  obtain ⟨d, hd, rfl⟩ := List.mem_map.mp hmem
  refine ⟨d.isLower_toUpper_eq_false, hblank, ?_⟩
  have hopen : (d.toUpper != '(') = true := by
    rw [toUpper_ne_open]
    exact List.mem_takeWhile_imp (p := (· != '(')) hd
  exact bne_iff_ne.mp hopen

/-- What a declared type is reduced to cannot be reduced any further. -/
theorem normalize_plain (declared : String) :
    IsPlainName (normalize declared) ∧ wordBase (normalize declared) = normalize declared := by
  rw [normalize_eq]
  exact foldWords_plain (leadingWords_plain declared)

/-- The names that stay as they are: plain ones that are no synonym of another. -/
theorem normalize_eq_self_iff {name : String} :
    normalize name = name ↔ IsPlainName name ∧ wordBase name = name := by
  constructor
  · intro hname
    have hplain := normalize_plain name
    rwa [hname] at hplain
  · rintro ⟨hplain, hword⟩
    exact normalize_eq_self hplain hword

theorem normalize_normalize (declared : String) :
    normalize (normalize declared) = normalize declared :=
  normalize_eq_self_iff.mpr (normalize_plain declared)

/-! ## Spellings -/

/-- The text spells the words out, with any blanks around and between them, in front of its
arguments. -/
def Spells (words : List (List Char)) (declared : String) : Prop :=
  ∃ head arguments, declared.toList = head ++ arguments ∧ '(' ∉ head ∧ Text.Spaced words head ∧
    (arguments = [] ∨ arguments.head? = some '(')

/-- A spelling shows its words in capitals, whatever blanks, cases and arguments it has. -/
theorem Spells.leadingWords_eq {words : List (List Char)} {declared : String}
    (hspells : Spells words declared) :
    leadingWords declared = words.map (List.map Char.toUpper) := by
  obtain ⟨head, arguments, hdeclared, hopen, hspaced, harguments⟩ := hspells
  have hhead : ∀ c ∈ head, (c != '(') = true :=
    fun c hc => bne_iff_ne.mpr (ne_of_mem_of_not_mem hc hopen)
  have hend : arguments.takeWhile (· != '(') = [] := by
    cases arguments with
    | nil => rfl
    | cons c rest =>
        obtain rfl : c = '(' := by simpa using harguments
        simp
  rw [leadingWords, hdeclared, List.takeWhile_append_of_pos hhead, hend, List.append_nil]
  exact hspaced.map_toUpper.wordsFrom_eq

/-- Every text spells some words. -/
theorem exists_spells (declared : String) : ∃ words, Spells words declared := by
  refine ⟨_, declared.toList.takeWhile (· != '('), declared.toList.dropWhile (· != '('),
    List.takeWhile_append_dropWhile.symm, ?_, Text.spaced_iff.mpr rfl, ?_⟩
  · intro hopen
    exact absurd (List.mem_takeWhile_imp (p := (· != '(')) hopen) (by decide)
  · have hfirst := List.head?_dropWhile_not (· != '(') declared.toList
    cases hrest : declared.toList.dropWhile (· != '(') with
    | nil => exact Or.inl rfl
    | cons c rest => exact Or.inr (by simpa [hrest] using hfirst)

/-- Two spellings of the same words have the same base name. -/
theorem normalize_eq_of_spells {words : List (List Char)} {declared other : String}
    (hdeclared : Spells words declared) (hother : Spells words other) :
    normalize other = normalize declared := by
  rw [normalize_eq, normalize_eq, hdeclared.leadingWords_eq, hother.leadingWords_eq]

theorem normalize_eq_of_lower_eq {declared other : String}
    (hlower : Text.lower other = Text.lower declared) :
    normalize other = normalize declared := by
  have hupper := Text.upper_eq_of_lower_eq hlower
  unfold normalize
  rw [hupper]

end TypeName

/-! ## Stored types -/

/-- Every column has a base name for its type. -/
def Table.HasBaseTypes (t : Table) : Prop :=
  ∀ column ∈ t.columns, TypeName.normalize column.typeName = column.typeName

namespace Table.HasBaseTypes

variable {t : Table}

theorem updateColumn (ht : t.HasBaseTypes) (name : String) {change : Column → Column}
    (hchange : ∀ c ∈ t.columns, TypeName.normalize (change c).typeName = (change c).typeName) :
    (t.updateColumn name change).HasBaseTypes := by
  intro column hcolumn
  rcases updateColumn_cases t name change with ⟨-, hsame⟩ | ⟨before, c, after, hold, -, -, hnew⟩
  · exact ht column (hsame ▸ hcolumn)
  · rw [hnew, List.mem_append, List.mem_cons] at hcolumn
    rcases hcolumn with hbefore | rfl | hafter
    · exact ht column (by simp [hold, hbefore])
    · exact hchange c (by simp [hold])
    · exact ht column (by simp [hold, hafter])

/-- An operation stores no type but the base name of a declared one. -/
theorem alter (ht : t.HasBaseTypes) (op : AlterOperation) : (t.alter op).HasBaseTypes := by
  cases op with
  | addColumn d =>
      intro column hcolumn
      rcases List.mem_append.mp hcolumn with hold | hnew
      · exact ht column hold
      · obtain rfl := List.mem_singleton.mp hnew
        simp only [Column.declare, TypeName.normalize_normalize]
  | dropColumn name => exact fun column hcolumn => ht column (List.mem_filter.mp hcolumn).1
  | modifyColumn name declared =>
      refine ht.updateColumn name fun _ _ => ?_
      simp only [TypeName.normalize_normalize]
  | changeColumn oldName newName declared =>
      refine ht.updateColumn oldName fun _ _ => ?_
      simp only [TypeName.normalize_normalize]
  | renameColumn oldName newName => exact ht.updateColumn oldName ht
  | addConstraint k =>
      intro column hcolumn
      rw [Table.alter, columns_addConstraint] at hcolumn
      exact ht column hcolumn
  | dropConstraint name | dropIndex name | other text => exact ht

/-- The run of `alter` over the operations of a statement. -/
theorem foldl_alter (ht : t.HasBaseTypes) (operations : List AlterOperation) :
    (operations.foldl Table.alter t).HasBaseTypes := by
  induction operations generalizing t with
  | nil => exact ht
  | cons op rest ih => exact ih (ht.alter op)

end Table.HasBaseTypes

/-- Every table that statements can build has only base types. -/
theorem Table.IsBuilt.hasBaseTypes {t : Table} (ht : t.IsBuilt) : t.HasBaseTypes := by
  obtain ⟨operations, hbuilt⟩ := ht
  have hnamed : (named t.name).HasBaseTypes := by simp [HasBaseTypes, named]
  exact hbuilt ▸ hnamed.foldl_alter operations

/-- The base name of a declared type has no small letter, no blank and no opening parenthesis, and
reducing it again changes nothing: the names that stay as they are are those without such characters
that are no synonym of another. The base name does not depend on the case of letters. It depends on
the words in front of the arguments only, not on the blanks around and between them and not on the
arguments and what follows them. So the type of every column that schema statements define is its
own base name, whether they are given as such or read from text. -/
theorem TypeName.normalize_is_canonical :
    (∀ declared, normalize (normalize declared) = normalize declared ∧
      (∀ c ∈ (normalize declared).toList, c.isLower = false ∧ Text.isBlank c = false ∧ c ≠ '(') ∧
      (∀ other, Text.lower other = Text.lower declared → normalize other = normalize declared) ∧
      (∃ words, Spells words declared) ∧
      ∀ words other, Spells words declared → Spells words other →
        normalize other = normalize declared) ∧
    (∀ name, normalize name = name ↔
      (∀ c ∈ name.toList, c.isLower = false ∧ Text.isBlank c = false ∧ c ≠ '(') ∧
        wordBase name = name) ∧
    (∀ script : List Statement, ∀ t ∈ (Catalog.ofStatements script).tables, ∀ column ∈ t.columns,
      normalize column.typeName = column.typeName) ∧
    ∀ (d : Dialect) (schema : String) (catalog : Catalog), Schema.catalog d schema = .ok catalog →
      ∀ t ∈ catalog.tables, ∀ column ∈ t.columns, normalize column.typeName = column.typeName := by
  have hscript (script : List Statement) (t : Table)
      (ht : t ∈ (Catalog.ofStatements script).tables) :
      t.HasBaseTypes :=
    (Catalog.isBuilt_ofStatements script t ht).hasBaseTypes
  refine ⟨fun declared => ⟨normalize_normalize declared, (normalize_plain declared).1,
    fun other => normalize_eq_of_lower_eq, exists_spells declared,
    fun words other => normalize_eq_of_spells⟩, fun name => normalize_eq_self_iff, hscript, ?_⟩
  intro d schema catalog hschema
  obtain ⟨script, rfl⟩ := Schema.exists_ofStatements hschema
  exact hscript script

def varyingWords : List (List Char) :=
  ["national".toList, "character".toList, "varying".toList]

theorem spells_varyingWords :
    TypeName.Spells varyingWords "national character varying" ∧
    TypeName.Spells varyingWords "  national\tcharacter \n varying (10) collate x" := by
  constructor
  · exact ⟨"national character varying".toList, [], by decide +kernel, by decide, by decide +kernel,
      Or.inl rfl⟩
  · exact ⟨"  national\tcharacter \n varying ".toList, "(10) collate x".toList,
      by decide +kernel, by decide, by decide +kernel, Or.inr rfl⟩

/-- The table `t` with a column of type `VARCHAR`. -/
def varyingTable : Catalog where
  entries := [("t", ⟨"t", none, [⟨"a", "VARCHAR", true⟩], []⟩)]

theorem catalog_varyingTable :
    Schema.catalog .generic "CREATE TABLE t (a character varying(10))" = .ok varyingTable := by
  apply eq_ok_of_toOption
  decide +kernel

/-- A phrase in small letters, with more blanks and with arguments, has the base name of the phrase
in capitals. The column of a schema that is declared so has this base name. -/
theorem TypeName.normalize_is_canonical_varying :
    Text.lower "NATIONAL CHARACTER VARYING" = Text.lower "national character varying" ∧
    normalize "NATIONAL CHARACTER VARYING" = normalize "national character varying" ∧
    (Spells varyingWords "national character varying" ∧
      Spells varyingWords "  national\tcharacter \n varying (10) collate x") ∧
    normalize "  national\tcharacter \n varying (10) collate x" =
      normalize "national character varying" ∧
    Schema.catalog .generic "CREATE TABLE t (a character varying(10))" = .ok varyingTable ∧
    normalize "VARCHAR" = "VARCHAR" := by
  obtain ⟨hdeclared, -, -, hstored⟩ := normalize_is_canonical
  obtain ⟨-, -, hcase, -, hspells⟩ := hdeclared "national character varying"
  have hlower : Text.lower "NATIONAL CHARACTER VARYING" =
      Text.lower "national character varying" := by
    decide +kernel
  refine ⟨hlower, hcase _ hlower, spells_varyingWords,
    hspells varyingWords _ spells_varyingWords.1 spells_varyingWords.2, catalog_varyingTable, ?_⟩
  exact hstored .generic _ varyingTable catalog_varyingTable _ List.mem_cons_self
    ⟨"a", "VARCHAR", true⟩
    List.mem_cons_self

end SqlAudit
