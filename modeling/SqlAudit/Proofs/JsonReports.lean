import SqlAudit.Proofs.JsonGrammar
import SqlAudit.Render.Format

/-! # Reports read back from JSON

Every document is written as a JSON text of its value, whatever characters its texts have. A report
is one such document. From the value, whichever way it was read from the text, the entries of the
report and its totals are found again under the names of their fields.
-/

namespace SqlAudit

namespace Render

/-! ## Written documents -/

mutual

/-- The JSON value of a document. -/
def Document.value : Document → SqlAudit.Json.Value
  | .text s => .text s
  | .number n => .number n 0
  | .list items => .list (values items)
  | .record fields => .record (fieldValues fields)

def Document.values : List Document → List SqlAudit.Json.Value
  | [] => []
  | item :: rest => item.value :: values rest

def Document.fieldValues : List (String × Document) → List (String × SqlAudit.Json.Value)
  | [] => []
  | (key, value) :: rest => (key, value.value) :: fieldValues rest

end

theorem Document.values_eq (items : List Document) : values items = items.map value := by
  induction items with
  | nil => rfl
  | cons item rest ih => rw [values, ih, List.map_cons]

theorem Document.fieldValues_eq (fields : List (String × Document)) :
    fieldValues fields = fields.map fun f => (f.1, f.2.value) := by
  induction fields with
  | nil => rfl
  | cons field rest ih => rw [fieldValues, ih, List.map_cons]

/-- What holds of a document if it holds of all items or all fields in it holds of every document.
-/
theorem Document.induction {motive : Document → Prop} (text : ∀ s, motive (.text s))
    (number : ∀ n, motive (.number n))
    (list : ∀ items, (∀ d ∈ items, motive d) → motive (.list items))
    (record : ∀ fields, (∀ field ∈ fields, motive field.2) → motive (.record fields)) :
    (d : Document) → motive d
  | .text s => text s
  | .number n => number n
  | .list items => list items fun d _hd => Document.induction text number list record d
  | .record fields =>
      record fields fun field _hfield => Document.induction text number list record field.2
termination_by d => sizeOf d
decreasing_by
  · have hlt := List.sizeOf_lt_of_mem _hd
    simp
    omega
  · have hlt := List.sizeOf_lt_of_mem _hfield
    obtain ⟨key, value⟩ := field
    simp at hlt ⊢
    omega

namespace Json

open SqlAudit.Json

theorem hexValue?_hexDigit {n : Nat} (hn : n < 16) : Text.hexValue? (Text.hexDigit n) = some n := by
  revert n
  decide

/-- A control character is written by its number, which is below all surrogates. -/
theorem exists_isPiece_hexDigits {c : Char} (hc : c.toNat < 0x20) :
    ∃ p, IsPiece ('\\' :: 'u' :: Text.hexDigits 4 c.toNat) p ∧
      ∀ rest, joinPieces (p :: rest) = (joinPieces rest).map (c :: ·) := by
  have hdigit (n : Nat) : Text.hexValue? (Text.hexDigit (n % 16)) = some (n % 16) :=
    hexValue?_hexDigit (Nat.mod_lt n (by decide))
  refine ⟨_, .unit (hdigit _) (hdigit _) (hdigit _) (hdigit _), fun rest => ?_⟩
  have hnumber : ((c.toNat / 16 / 16 / 16 % 16 * 16 + c.toNat / 16 / 16 % 16) * 16 +
      c.toNat / 16 % 16) * 16 + c.toNat % 16 = c.toNat := by
    omega
  have hhigh : ¬ (0xD800 ≤ c.toNat ∧ c.toNat < 0xDC00) := by omega
  have hlow : ¬ (0xDC00 ≤ c.toNat ∧ c.toNat < 0xE000) := by omega
  rw [hnumber, joinPieces.eq_def]
  simp [hhigh, hlow]

/-- Every character is written as a piece of a string that stands for it. -/
theorem exists_isPiece_escapeChar (c : Char) :
    ∃ p, IsPiece (escapeChar c) p ∧ ∀ rest, joinPieces (p :: rest) =
      (joinPieces rest).map (c :: ·) := by
  by_cases hshort : c = '"' ∨ c = '\\' ∨ c = '\x08' ∨ c = '\x0c' ∨ c = '\n' ∨ c = '\r' ∨ c = '\t'
  · refine ⟨.char c, ?_, fun _ => rfl⟩
    rcases hshort with rfl | rfl | rfl | rfl | rfl | rfl | rfl <;> exact .short (by decide)
  · simp only [not_or] at hshort
    obtain ⟨hquote, hbackslash, hb, hf, hn, hr, ht⟩ := hshort
    by_cases hcontrol : c.toNat < 0x20
    · simpa [escapeChar, hquote, hbackslash, hb, hf, hn, hr, ht, hcontrol]
        using exists_isPiece_hexDigits hcontrol
    · have hplain : escapeChar c = [c] := by
        simp [escapeChar, hquote, hbackslash, hb, hf, hn, hr, ht, hcontrol]
      rw [hplain]
      exact ⟨.char c, .plain hquote hbackslash (Nat.not_lt.mp hcontrol), fun _ => rfl⟩

/-- The escaped characters are pieces that join to the text. -/
theorem exists_isPiece_all (cs : List Char) :
    ∃ pieces, List.Forall₂ IsPiece (cs.map escapeChar) pieces ∧ joinPieces pieces = some cs := by
  induction cs with
  | nil => exact ⟨[], .nil, rfl⟩
  | cons c cs ih =>
      obtain ⟨pieces, hpieces, hjoin⟩ := ih
      obtain ⟨p, hp, hc⟩ := exists_isPiece_escapeChar c
      exact ⟨p :: pieces, .cons hp hpieces, by rw [hc, hjoin, Option.map_some]⟩

/-- A quoted text is a string with that text as its value. -/
theorem isString_quoted (s : String) : IsString (quoted s).toList s := by
  obtain ⟨pieces, hpieces, hjoin⟩ := exists_isPiece_all s.toList
  have hquoted : (quoted s).toList = '"' :: ((s.toList.map escapeChar).flatten ++ ['"']) := by
    simp [quoted, List.flatMap_def]
  rw [hquoted]
  exact .mk hpieces hjoin

theorem digitChar_ne_zero : ∀ n < 10, 0 < n → Nat.digitChar n ≠ '0' := by
  decide

/-- The digits of a positive number do not begin with zero. -/
theorem head?_toDigits_ne_zero {n : Nat} (hn : 0 < n) : (Nat.toDigits 10 n).head? ≠ some '0' := by
  induction n using Nat.strongRecOn with
  | ind n ih =>
      by_cases hsmall : n < 10
      · rw [Nat.toDigits_of_lt_base hsmall]
        simpa using digitChar_ne_zero n hsmall hn
      · rw [Nat.toDigits_of_base_le (by decide) (by omega),
          List.head?_append_of_ne_nil _ Nat.toDigits_ne_nil]
        exact ih (n / 10) (by omega) (by omega)

/-- The decimal digits of a number are a number of the grammar. -/
theorem isNumber_toString (n : Nat) : IsNumber (toString n).toList n 0 := by
  have hnumeral := Text.isNumeral_toString n
  have hwhole : IsWhole (toString n).toList := by
    refine ⟨hnumeral.ne_nil, hnumeral.digits, fun hhead => ?_⟩
    rcases Nat.eq_zero_or_pos n with rfl | hn
    · rfl
    · rw [Nat.toString_eq_ofList_toDigits, String.toList_ofList] at hhead
      exact absurd hhead (head?_toDigits_ne_zero hn)
  have hnumber := IsNumber.mk .absent hwhole .absent .absent
  have hvalue : Text.digitsValue (toString n).toList = n := by
    rw [Text.digitsValue_eq_ofDigits, hnumeral.value]
  simpa only [List.nil_append, List.append_nil, hvalue, Int.one_mul, List.length_nil,
    Int.natCast_zero, Int.sub_zero] using hnumber

/-- Parts on lines of their own are separated. -/
theorem separated_lines {gap last : List Char} (hgap : IsGap gap) (hlast : IsGap last)
    (part : List Char) (parts : List (List Char)) :
    Separated (part :: parts)
      (gap ++ (part ++ (parts.flatMap (fun next => ',' :: (gap ++ next)) ++ last))) := by
  induction parts generalizing part with
  | nil => exact .last hgap hlast
  | cons next parts ih =>
      have hnext : Separated (part :: next :: parts) _ := .next hgap isGap_nil (ih next)
      simpa using hnext

/-- What stands in front of a line at the given depth. -/
def lineStart (depth : Nat) : List Char :=
  '\n' :: (margin depth).toList

/-- A new line and its margin are blanks to the grammar. -/
theorem isGap_lineStart (depth : Nat) : IsGap (lineStart depth) := by
  intro c hc
  simp only [lineStart, margin, String.toList_ofList, List.mem_cons, List.mem_replicate] at hc
  rcases hc with rfl | ⟨-, rfl⟩ <;> rfl

/-- Each item after the first stands behind a comma, on a line of its own. -/
theorem toList_writeItems (depth : Nat) (items : List Document) :
    (writeItems depth items).toList =
      (items.map fun item => (write (depth + 1) item).toList).flatMap fun part =>
        ',' :: (lineStart (depth + 1) ++ part) := by
  induction items with
  | nil => rfl
  | cons item items ih => simp [writeItems, ih, lineStart]

/-- The text of a field. -/
def fieldText (depth : Nat) (field : String × Document) : List Char :=
  (quoted field.1).toList ++ ':' :: ' ' :: (write depth field.2).toList

theorem toList_writeFields (depth : Nat) (fields : List (String × Document)) :
    (writeFields depth fields).toList =
      (fields.map (fieldText (depth + 1))).flatMap fun part =>
        ',' :: (lineStart (depth + 1) ++ part) := by
  induction fields with
  | nil => rfl
  | cons field fields ih => simp [writeFields, ih, lineStart, fieldText]

/-- A field is spelled if its value is. -/
theorem spellsField_fieldText {depth : Nat} {field : String × Document}
    (hvalue : Spells (write depth field.2).toList field.2.value) :
    SpellsField (fieldText depth field) (field.1, field.2.value) := by
  have hspace : IsGap [' '] := by simp [IsGap, isSpace]
  have hfield := SpellsField.mk (isString_quoted field.1) isGap_nil hspace hvalue
  simpa [fieldText] using hfield

/-- Every document is written as a JSON text of its value, at whatever depth. -/
theorem spells_write (depth : Nat) (d : Document) : Spells (write depth d).toList d.value := by
  induction d using Document.induction generalizing depth with
  | text s =>
      rw [write, Document.value]
      exact .text (isString_quoted s)
  | number n =>
      rw [write, Document.value]
      exact .number (isNumber_toString n)
  | list items ih =>
      cases items with
      | nil =>
          rw [write, Document.value, Document.values]
          exact .list .nil (.none isGap_nil)
      | cons item rest =>
          have hparts : List.Forall₂ Spells
              ((item :: rest).map fun d => (write (depth + 1) d).toList)
              ((item :: rest).map Document.value) := by
            rw [List.forall₂_map_left_iff, List.forall₂_map_right_iff, List.forall₂_same]
            exact fun d hd => ih d hd (depth + 1)
          have hlist := Spells.list hparts
            (separated_lines (isGap_lineStart (depth + 1)) (isGap_lineStart depth) _ _)
          rw [write, Document.value, Document.values_eq]
          simpa [toList_writeItems, lineStart] using hlist
  | record fields ih =>
      cases fields with
      | nil =>
          rw [write, Document.value, Document.fieldValues]
          exact .record .nil (.none isGap_nil)
      | cons field rest =>
          have hparts : List.Forall₂ SpellsField ((field :: rest).map (fieldText (depth + 1)))
              ((field :: rest).map fun field => (field.1, field.2.value)) := by
            rw [List.forall₂_map_left_iff, List.forall₂_map_right_iff, List.forall₂_same]
            exact fun field hfield => spellsField_fieldText (ih field hfield (depth + 1))
          have hrecord := Spells.record hparts
            (separated_lines (isGap_lineStart (depth + 1)) (isGap_lineStart depth) _ _)
          rw [write, Document.value, Document.fieldValues_eq]
          simpa [toList_writeFields, lineStart, fieldText] using hrecord

/-- Every document is written as a text of the grammar, with the value that it has. -/
theorem isTextOf_render (d : Document) : IsTextOf (render d) d.value :=
  ⟨[], (write 0 d).toList, [], by simp [render], isGap_nil, isGap_nil, spells_write 0 d⟩

end Json

end Render

/-! ## Reports found in values -/

namespace Json.Value

def text? : Value → Option String
  | .text s => some s
  | _ => none

/-- The natural number that is written without a fraction and a power of ten. -/
def natural? : Value → Option Nat
  | .number (.ofNat n) 0 => some n
  | _ => none

def list? {α : Type} (item? : Value → Option α) : Value → Option (List α)
  | .list items => items.mapM item?
  | _ => none

/-- The field with a name, whatever fields stand around it. -/
def field? {α : Type} (name : String) (value? : Value → Option α) : Value → Option α
  | .record fields => (fields.lookup name).bind value?
  | _ => none

def severity? (v : Value) : Option Severity := do
  match ← v.text? with
  | "Blocker" => some .blocker
  | "Critical" => some .critical
  | "Minor" => some .minor
  | _ => none

def finding? (v : Value) : Option Finding := do
  pure ⟨← v.field? "rule_id" text?, ← v.field? "severity" severity?, ← v.field? "detail" text?⟩

def entry? (v : Value) : Option ScriptEntry := do
  pure
    { index := ← v.field? "index" natural?
      kind := ← v.field? "kind" text?
      text := ← v.field? "sql" text?
      report :=
        { findings := ← v.field? "suggestions" (list? finding?)
          rulesRun := ← v.field? "rules_run" natural?
          failedRules := ← v.field? "failed_rules" (list? text?) } }

def summary? (v : Value) : Option Summary := do
  pure
    { statements := ← v.field? "statements" natural?
      blocker := ← v.field? "blocker" natural?
      critical := ← v.field? "critical" natural?
      minor := ← v.field? "minor" natural? }

/-- The entries and the totals of a report. -/
def report? (v : Value) : Option (List ScriptEntry × Summary) := do
  pure (← v.field? "statements" (list? entry?), ← v.field? "summary" summary?)

end Json.Value

namespace Render.Document

open SqlAudit.Json.Value

theorem field?_record_cons {α : Type} {value? : SqlAudit.Json.Value → Option α} (name : String)
    (d : Document) (rest : List (String × Document)) :
    field? name value? (value (.record ((name, d) :: rest))) = value? d.value := by
  simp [value, fieldValues, field?]

/-- A field is looked for behind fields of other names. -/
theorem field?_record_cons_of_ne {α : Type} {value? : SqlAudit.Json.Value → Option α}
    {name other : String} (hname : name ≠ other) (d : Document) (rest : List (String × Document)) :
    field? name value? (value (.record ((other, d) :: rest))) =
      field? name value? (value (.record rest)) := by
  simp [value, fieldValues, field?, List.lookup_cons, beq_false_of_ne hname]

theorem text?_value (s : String) : text? (value (.text s)) = some s := by
  rw [value, text?]

theorem natural?_value (n : Nat) : natural? (value (.number n)) = some n := by
  rw [value]
  rfl

/-- A list is decoded if each item is. -/
theorem list?_value {α : Type} {item? : SqlAudit.Json.Value → Option α} {document : α → Document}
    {as : List α} (hitems : ∀ a ∈ as, item? (document a).value = some a) :
    list? item? (value (.list (as.map document))) = some as := by
  rw [value, values_eq, List.map_map, list?]
  induction as with
  | nil => rfl
  | cons a as ih =>
      rw [List.forall_mem_cons] at hitems
      simp [List.mapM_cons, hitems.1, ih hitems.2]

theorem severity?_value (s : Severity) : severity? (value (.text (severityName s))) = some s := by
  rw [severity?, text?_value]
  cases s <;> rfl

theorem finding?_ofFinding (f : Finding) : finding? (ofFinding f).value = some f := by
  unfold finding? ofFinding
  simp [field?_record_cons, field?_record_cons_of_ne, text?_value, severity?_value]

/-- The review of a statement is decoded to itself. -/
theorem entry?_ofEntry (entry : ScriptEntry) : entry? (ofEntry entry).value = some entry := by
  have hfindings : list? finding? (value (.list (entry.report.findings.map ofFinding))) =
      some entry.report.findings :=
    list?_value fun f _ => finding?_ofFinding f
  have hfailed : list? text? (value (.list (entry.report.failedRules.map .text))) =
      some entry.report.failedRules :=
    list?_value fun s _ => text?_value s
  unfold entry? ofEntry
  simp [field?_record_cons, field?_record_cons_of_ne, text?_value, natural?_value,
    hfindings, hfailed]

theorem summary?_ofSummary (s : Summary) : summary? (ofSummary s).value = some s := by
  unfold summary? ofSummary
  simp [field?_record_cons, field?_record_cons_of_ne, natural?_value]

/-- A report is decoded to its entries and their totals. -/
theorem report?_ofEntries (entries : List ScriptEntry) :
    report? (ofEntries entries).value = some (entries, Summary.ofEntries entries) := by
  have hentries : list? entry? (value (.list (entries.map ofEntry))) = some entries :=
    list?_value fun entry _ => entry?_ofEntry entry
  unfold report? ofEntries
  simp [field?_record_cons, field?_record_cons_of_ne, hentries, summary?_ofSummary]

end Render.Document

/-- A report in JSON is a JSON text of exactly one value. The reader finds this value, and the value
holds all entries of the report in their order, with everything that belongs to them, and the
totals. -/
theorem json_report_reads_back (entries : List ScriptEntry) (colored verbose : Bool) :
    ∃ v, (∀ w, Json.IsTextOf (Render.report ⟨.json, colored, verbose⟩ entries) w ↔ w = v) ∧
      Json.read (Render.report ⟨.json, colored, verbose⟩ entries) = some v ∧
      v.report? = some (entries, Summary.ofEntries entries) := by
  have hspelled : Json.IsTextOf (Render.report ⟨.json, colored, verbose⟩ entries)
      (Render.Document.ofEntries entries).value :=
    Render.Json.isTextOf_render _
  refine ⟨_, fun w => ⟨fun hw => hw.unique hspelled, ?_⟩, hspelled.read_eq,
    Render.Document.report?_ofEntries entries⟩
  rintro rfl
  exact hspelled

end SqlAudit
