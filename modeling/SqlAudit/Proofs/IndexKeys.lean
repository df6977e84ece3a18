import SqlAudit.Proofs.BaseTypeNames
import SqlAudit.Proofs.IndexedColumns
import SqlAudit.Proofs.SchemaPieces

/-! # Keys of an index

An index on the first characters of a column has a key such as `email(20)`, which reads like a call.
The column is found in the text of the key: what stands before the first blank or opening
parenthesis, without the quotes around it. That is the name of the column exactly if the name has no
blank and no opening parenthesis in it. A quoted name may have both, and then the index is recorded
on another column, or on none.
-/

namespace SqlAudit

namespace Sql

/-! ## The text of a key -/

/-- The identifier is bare or stands in double quotes or backquotes, and has no quotes in it. -/
structure Ident.IsColumn (i : Ident) : Prop where
  quote_cases : i.quote = none ∨ i.quote = some '"' ∨ i.quote = some '\x60'
  no_quotes : ∀ c ∈ i.value.toList, c ≠ '"' ∧ c ≠ '\x60'

/-- The key of an index on the first characters of a column, with the direction of the order if one
is given. -/
def Ident.keyText (i : Ident) (digits : String) (direction : Option String) : String :=
  i.text ++ "(" ++ digits ++ ")" ++ clause " " direction

/-- The identifier has no blank and no opening parenthesis in it. -/
def Ident.IsUnbroken (i : Ident) : Prop :=
  ∀ c ∈ i.value.toList, Text.isBlank c = false ∧ c ≠ '('

theorem doubleQuotes_eq_self {quote : Char} {cs : List Char} (hcs : quote ∉ cs) (before : Char) :
    doubleQuotes quote before cs = cs := by
  induction cs generalizing before with
  | nil => rfl
  | cons c cs ih =>
      obtain ⟨hc, hrest⟩ := List.ne_and_not_mem_of_not_mem_cons hcs
      cases cs with
      | nil => simp [doubleQuotes, Ne.symm hc]
      | cons d cs => rw [doubleQuotes, if_neg (Ne.symm hc), ih hrest]

/-- An identifier is written with its quotes around it. -/
theorem Ident.IsColumn.toList_text {i : Ident} (hi : i.IsColumn) :
    i.text.toList = i.quote.toList ++ (i.value.toList ++ i.quote.toList) := by
  obtain ⟨value, quote⟩ := i
  obtain ⟨hquote, hvalue⟩ := hi
  rcases hquote with rfl | rfl | rfl
  · simp [text]
  · have hdouble := doubleQuotes_eq_self (fun hmem => (hvalue _ hmem).1 rfl) '\x00'
    simp [text, quoteText, hdouble]
  · have hdouble := doubleQuotes_eq_self (fun hmem => (hvalue _ hmem).2 rfl) '\x00'
    simp [text, quoteText, hdouble]

/-! ## The column of a key -/

/-- The quotes that are taken off. -/
def isQuote (c : Char) : Bool :=
  c = '"' || c = '\x60'

/-- The characters before a blank or an opening parenthesis. -/
def isKeyPart (c : Char) : Bool :=
  !(Text.isBlank c || c = '(')

/-- A key ends at a blank or an opening parenthesis. -/
theorem isKeyPart_iff {c : Char} : isKeyPart c = true ↔ Text.isBlank c = false ∧ c ≠ '(' := by
  simp [isKeyPart]

theorem Ident.IsColumn.isQuote_quote {i : Ident} (hi : i.IsColumn) :
    ∀ c ∈ i.quote.toList, isQuote c = true ∧ isKeyPart c = true := by
  rcases hi.quote_cases with hquote | hquote | hquote <;> rw [hquote]
  · exact List.forall_mem_nil _
  · exact List.forall_mem_singleton.mpr (by decide)
  · exact List.forall_mem_singleton.mpr (by decide)

theorem Ident.IsColumn.isQuote_value {i : Ident} (hi : i.IsColumn) :
    ∀ c ∈ i.value.toList, isQuote c = false := by
  intro c hc
  obtain ⟨hdouble, hback⟩ := hi.no_quotes c hc
  simp [isQuote, hdouble, hback]

/-- What is taken of a key is the opening quote, the identifier up to a blank or an opening
parenthesis, and the closing quote if the identifier is taken as a whole. -/
theorem Ident.IsColumn.takeWhile_keyText {i : Ident} (hi : i.IsColumn) (digits : String)
    (direction : Option String) :
    ∃ after, (∀ c ∈ after, isQuote c = true) ∧
      (i.keyText digits direction).toList.takeWhile isKeyPart =
      i.quote.toList ++ (i.value.toList.takeWhile isKeyPart ++ after) := by
  have hkey : (i.keyText digits direction).toList =
      i.quote.toList ++ (i.value.toList ++ (i.quote.toList ++
        '(' :: (digits.toList ++ ')' :: (clause " " direction).toList))) := by
    simp [keyText, hi.toList_text]
  have hquotes : ∀ c ∈ i.quote.toList, isKeyPart c = true := fun c hc => (hi.isQuote_quote c hc).2
  rw [hkey, List.takeWhile_append_of_pos hquotes, List.takeWhile_append]
  split
  next hall =>
    rw [List.takeWhile_append_of_pos hquotes, List.takeWhile_cons_of_neg (by decide),
      List.append_nil]
    refine ⟨i.quote.toList, fun c hc => (hi.isQuote_quote c hc).1, ?_⟩
    rw [List.IsPrefix.eq_of_length (List.takeWhile_prefix _) hall]
  next => exact ⟨[], List.forall_mem_nil _, by rw [List.append_nil]⟩

/-- What is taken for the column: the name up to a blank or a parenthesis. -/
theorem columnOfText_keyText {i : Ident} (hi : i.IsColumn) (digits : String)
    (direction : Option String) :
    columnOfText (i.keyText digits direction) =
      String.ofList (i.value.toList.takeWhile isKeyPart) := by
  obtain ⟨after, hafter, htaken⟩ := hi.takeWhile_keyText digits direction
  have hvalue : ∀ c ∈ i.value.toList.takeWhile isKeyPart, isQuote c = false := fun c hc =>
    hi.isQuote_value c ((List.takeWhile_prefix _).subset hc)
  have hcolumn := Text.dropWhile_both_ends (fun c hc => (hi.isQuote_quote c hc).1) hafter
    (fun c hc => hvalue c (List.mem_of_mem_head? hc))
    (fun c hc => hvalue c (List.mem_of_mem_getLast? hc))
  rw [← htaken] at hcolumn
  exact congrArg String.ofList hcolumn

/-- The column of a key is the identifier in it exactly if nothing breaks the identifier off. -/
theorem columnOfText_keyText_iff {i : Ident} (hi : i.IsColumn) (digits : String)
    (direction : Option String) :
    columnOfText (i.keyText digits direction) = i.value ↔ i.IsUnbroken := by
  rw [columnOfText_keyText hi, ← String.toList_inj, String.toList_ofList,
    List.takeWhile_eq_self_iff]
  simp only [isKeyPart_iff, Ident.IsUnbroken]

/-- Letter case does not make up for what is broken off. -/
theorem lower_columnOfText_keyText_iff {i : Ident} (hi : i.IsColumn) (digits : String)
    (direction : Option String) :
    Text.lower (columnOfText (i.keyText digits direction)) = Text.lower i.value ↔ i.IsUnbroken := by
  constructor
  · intro hlower
    rw [columnOfText_keyText hi, Text.lower, Text.lower, String.toList_ofList,
      String.ofList_inj] at hlower
    have hlength : (i.value.toList.takeWhile isKeyPart).length = i.value.toList.length := by
      simpa using congrArg List.length hlower
    rw [← columnOfText_keyText_iff hi digits direction, columnOfText_keyText hi,
      (List.takeWhile_prefix _).eq_of_length hlength, String.ofList_toList]
  · intro hunbroken
    rw [(columnOfText_keyText_iff hi digits direction).mpr hunbroken]

/-! ## Recorded indexes -/

/-- A key that reads like a call is on the column that is found in its text. -/
theorem indexColumn_node {g : Grammar} {mode : Mode} {lexemes more rest : List Lexeme} {t : Term}
    {key : Phrase String} (hterm : g.anyExpr mode lexemes = .ok (t, more)) (hcall : t.shape = .call)
    (hkey : indexColumn g mode lexemes = .ok (key, rest)) : key.node = columnOfText t.text := by
  unfold indexColumn at hkey
  obtain ⟨_, _, hfirst, hclauses⟩ := Reader.exists_ok_of_bind hkey
  rw [hterm] at hfirst
  cases hfirst
  -- The clauses after the expression show in the text of the key and not in its column.
  refine (?_ : Reader.Gives (fun key => key.node = columnOfText t.text) _) _ _ _ _ hclauses
  repeat' first
    | refine Reader.Gives.bind fun _ => ?_
    | refine Reader.Gives.ite ?_ ?_
    | exact Reader.Gives.pure (by simp only [hcall])

end Sql

/-- An index that is created is on the columns that it lists, in addition to those before. -/
theorem Catalog.isIndexed_createIndex {c : Catalog} {d : CreateIndex} {t : Table}
    (ht : c.find? d.table.base = some t) (name : String) :
    ∃ t', (c.apply (.createIndex d)).find? d.table.base = some t' ∧
      (t'.isIndexed name = true ↔
        t.isIndexed name = true ∨ ∃ listed ∈ d.columns, Text.lower listed = Text.lower name) := by
  refine ⟨t.addIndex d.index, ?_, ?_⟩
  · rw [apply, find?_modify, if_pos rfl, ht, Option.map_some]
  · simp only [Table.isIndexed_iff, Table.addIndex, List.mem_append, List.mem_singleton,
      or_and_right, exists_or, exists_eq_left, CreateIndex.index]

namespace Sql

/-- The column of a key is the identifier in it, and an index with this key is on the column of that
name, exactly if the identifier has no blank and no opening parenthesis. A plain identifier has
neither. -/
theorem index_key_names_column_iff (i : Ident) (hi : i.IsColumn) (digits : String)
    (direction : Option String) :
    (columnOfText (i.keyText digits direction) = i.value ↔ i.IsUnbroken) ∧
    (∀ (g : Grammar) (mode : Mode) (lexemes more rest : List Lexeme) (t : Term)
      (key : Phrase String), g.anyExpr mode lexemes = .ok (t, more) → t.shape = .call →
      t.text = i.keyText digits direction →
      indexColumn g mode lexemes = .ok (key, rest) → (key.node = i.value ↔ i.IsUnbroken)) ∧
    (∀ (c : Catalog) (d : CreateIndex) (t : Table), c.find? d.table.base = some t →
      d.columns = [columnOfText (i.keyText digits direction)] →
      ∃ t', (c.apply (.createIndex d)).find? d.table.base = some t' ∧
        (t'.isIndexed i.value = true ↔ t.isIndexed i.value = true ∨ i.IsUnbroken)) ∧
    ((∀ c ∈ i.value.toList, c.isAlpha = true ∨ c.isDigit = true ∨ c = '_' ∨ c = '$') →
      i.IsUnbroken) := by
  have hcolumn := columnOfText_keyText_iff hi digits direction
  refine ⟨hcolumn, ?_, ?_, ?_⟩
  · intro g mode lexemes more rest t key hterm hcall htext hkey
    rw [indexColumn_node hterm hcall hkey, htext, hcolumn]
  · intro c d t ht hcolumns
    obtain ⟨t', ht', hindexed⟩ := Catalog.isIndexed_createIndex ht i.value
    refine ⟨t', ht', ?_⟩
    rw [hindexed, hcolumns, ← lower_columnOfText_keyText_iff hi digits direction]
    simp
  · intro hplain c hc
    rcases hplain c hc with halpha | hdigit | rfl | rfl
    · exact ⟨Text.not_isBlank_of_isAlpha halpha, fun heq => absurd (heq ▸ halpha) (by decide)⟩
    · exact ⟨Text.not_isBlank_of_isDigit hdigit, fun heq => absurd (heq ▸ hdigit) (by decide)⟩
    · decide
    · decide

/-- A name with a closing parenthesis and a dot in it, in backquotes. -/
def dottedColumn : Ident :=
  ⟨"a).b", some '\x60'⟩

def dottedTable : Table :=
  ⟨"t", none, [⟨"a).b", "TEXT", true⟩], []⟩

def dottedIndex : CreateIndex :=
  ⟨some "i", ⟨["t"]⟩, [columnOfText (dottedColumn.keyText "10" (some "DESC"))], false⟩

theorem index_key_names_column_iff_dotted :
    dottedColumn.IsColumn ∧ dottedColumn.IsUnbroken ∧
    columnOfText (dottedColumn.keyText "10" (some "DESC")) = "a).b" ∧
    ∃ t', ((Catalog.empty.insert dottedTable).apply (.createIndex dottedIndex)).find? "t" =
      some t' ∧
      t'.isIndexed "a).b" = true := by
  have hcolumn : dottedColumn.IsColumn := ⟨Or.inr (Or.inr rfl), by simp [dottedColumn]⟩
  have hunbroken : dottedColumn.IsUnbroken := by
    simp [Ident.IsUnbroken, dottedColumn, Text.isBlank]
  have hfind : (Catalog.empty.insert dottedTable).find? dottedIndex.table.base =
      some dottedTable := by
    decide +kernel
  obtain ⟨hkey, -, hindexed, -⟩ :=
    index_key_names_column_iff dottedColumn hcolumn "10" (some "DESC")
  obtain ⟨t', ht', hiff⟩ := hindexed _ dottedIndex dottedTable hfind rfl
  exact ⟨hcolumn, hunbroken, hkey.mpr hunbroken, t', ht', hiff.mpr (Or.inr hunbroken)⟩

/-- A table with a column `first name` and an index on the first characters of this column. -/
def spacedSchema : String :=
  "CREATE TABLE t (\x60first name\x60 VARCHAR(50)); CREATE INDEX i ON t (\x60first name\x60(10))"

/-- The catalog that this schema gives. -/
def spacedCatalog : Catalog :=
  .insert .empty ⟨"t", none, [⟨"first name", "VARCHAR", true⟩], [⟨"i", ["first"], .normal⟩]⟩

/-- The index on the first characters of `first name` is recorded on `first`, which is no column of
the table. -/
theorem spaced_column_not_indexed :
    columnOfText (Ident.keyText ⟨"first name", some '\x60'⟩ "10" none) ≠ "first name" ∧
    ∃ c t, Schema.catalog .mysql spacedSchema = .ok c ∧ c.find? "t" = some t ∧
      t.HasColumn "first name" ∧ t.isIndexed "first name" = false ∧ t.isIndexed "first" = true := by
  have hschema : Schema.catalog .mysql spacedSchema = .ok spacedCatalog :=
    eq_ok_of_toOption (by decide +kernel)
  exact ⟨by decide +kernel, spacedCatalog, _, hschema, rfl, by decide +kernel, by decide +kernel,
    by decide +kernel⟩

end Sql

end SqlAudit
