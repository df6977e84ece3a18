import SqlAudit.Sql.Literal

/-! # Data types

The types that the language knows are written in capitals, with their arguments; all other type
names are kept as they were written.
-/

namespace SqlAudit.Sql

structure DeclaredType where
  text : String
  /-- The language does not know the name. -/
  isCustom : Bool
  isInterval : Bool
  deriving DecidableEq, Repr, Inhabited

namespace DeclaredType

def known (text : String) : DeclaredType := ⟨text, false, false⟩

end DeclaredType

open Reader

def lengthText : Reader String := do
  pure (clause "" ((← precision?).map fun n => "(" ++ toString n ++ ")"))

def charLengthText : Reader String := do
  if ← symbol "(" then
    if ← keyword "MAX" then
      needSymbol ")"
      pure "(MAX)"
    else
      let n ← wholeNumber
      let unit ← oneOf ["CHARACTERS", "OCTETS"]
      needSymbol ")"
      pure ("(" ++ toString n ++ clause " " unit ++ ")")
  else pure ""

def scaleText : Reader String := do
  if ← symbol "(" then
    let n ← wholeNumber
    if ← symbol "," then
      let minus ← symbol "-"
      if !minus then let _ ← symbol "+"
      let scale ← wholeNumber
      needSymbol ")"
      pure ("(" ++ toString n ++ "," ++ (if minus then "-" else "") ++ toString scale ++ ")")
    else
      needSymbol ")"
      pure ("(" ++ toString n ++ ")")
  else pure ""

/-- ` UNSIGNED` if that is next. Where types may be signed explicitly, `SIGNED` is taken and
forgotten. -/
def signText (signed : Bool) : Reader String := do
  if ← keyword "UNSIGNED" then pure " UNSIGNED"
  else
    if signed then
      if (← dialect).declaresIndexes then let _ ← keyword "SIGNED"
    pure ""

/-- ` WITH TIME ZONE` or ` WITHOUT TIME ZONE`, if one is next. -/
def zoneText : Reader String := do
  if ← keyword "WITH" then
    needKeywords ["TIME", "ZONE"]
    pure " WITH TIME ZONE"
  else if ← keyword "WITHOUT" then
    needKeywords ["TIME", "ZONE"]
    pure " WITHOUT TIME ZONE"
  else pure ""

/-- The arguments of a type name that the language does not know, up to the closing parenthesis. -/
def customArguments : Reader (List String) := do
  let argument : Reader (Option (List String)) := do
    match ← peek with
    | none => expected "type modifiers"
    | some lexeme =>
      match lexeme.token with
      | .symbol ")" => pure none
      | .symbol "," => skip; pure (some [])
      | .word s q => skip; pure (some [(Token.word s q).text])
      | .number s _ => skip; pure (some [s])
      | .string .single s => skip; pure (some [s])
      | _ => expected "type modifiers"
  pure (← many argument).flatten

/-- A type name that the language does not know. -/
def customType : Reader DeclaredType := do
  let name ← objectName
  if ← symbol "(" then
    let arguments ← customArguments
    needSymbol ")"
    pure ⟨namesText name ++ (if arguments.isEmpty then "" else "(" ++ commaText arguments ++ ")"),
      true, false⟩
  else pure ⟨namesText name, true, false⟩

def stringsText : Reader String := do
  let values ← parenthesised (commas do
    match ← peek with
    | some { token := .string .single s, .. } => skip; pure (quoteText '\x27' s)
    | _ => expected "a string")
  pure ("(" ++ commaText values ++ ")")

/-- The type that a keyword begins, after the keyword; nothing if the language does not know it. -/
def knownType (d : Dialect) (key : String) : Option (Reader DeclaredType) :=
  let plain (key : String) : Option (Reader DeclaredType) := some (pure (.known key))
  let after (key : String) (more : Reader String) : Option (Reader DeclaredType) :=
    some do pure (.known (key ++ (← more)))
  let then_ (key : String) (first second : Reader String) : Option (Reader DeclaredType) :=
    some do
      let a ← first
      let b ← second
      pure (.known (key ++ a ++ b))
  match key with
  | "BOOLEAN" | "BOOL" | "FLOAT4" | "FLOAT8" | "FLOAT32" | "FLOAT64" | "UUID" | "DATE" | "DATE32"
  | "JSON" | "JSONB" | "REGCLASS" | "TEXT" | "TINYTEXT" | "MEDIUMTEXT" | "LONGTEXT" | "TINYBLOB"
  | "MEDIUMBLOB" | "LONGBLOB" | "BYTEA" | "INT16" | "INT32" | "INT64" | "INT128" | "INT256"
  | "UINT8" | "UINT16" | "UINT32" | "UINT64" | "TRIGGER" | "HUGEINT" => plain key
  | "TINYINT" | "SMALLINT" | "MEDIUMINT" | "INT" | "INTEGER" | "BIGINT" | "INT2" | "INT4"
  | "INT8" =>
    then_ key lengthText (signText true)
  | "FLOAT" | "DECIMAL" | "DEC" => then_ key scaleText (signText false)
  | "NUMERIC" | "BIGNUMERIC" | "BIGDECIMAL" => after key scaleText
  | "REAL" => after key (signText false)
  | "DOUBLE" => some do
    if ← keyword "PRECISION" then
      let sign ← signText false
      pure (.known ("DOUBLE PRECISION" ++ sign))
    else
      let scale ← scaleText
      let sign ← signText false
      pure (.known ("DOUBLE" ++ scale ++ sign))
  | "VARCHAR" | "NVARCHAR" | "VARBINARY" => after key charLengthText
  | "CHARACTER" | "CHAR" => some do
    if ← keyword "VARYING" then pure (.known (key ++ " VARYING" ++ (← charLengthText)))
    else if ← keywords ["LARGE", "OBJECT"] then
      pure (.known (key ++ " LARGE OBJECT" ++ (← lengthText)))
    else pure (.known (key ++ (← charLengthText)))
  | "BIT" => some do
    if ← keyword "VARYING" then pure (.known ("BIT VARYING" ++ (← lengthText)))
    else pure (.known ("BIT" ++ (← lengthText)))
  | "CLOB" | "BINARY" | "BLOB" | "BYTES" | "VARBIT" | "DATETIME" | "STRING" => after key lengthText
  | "TIMESTAMP" | "TIME" => then_ key lengthText zoneText
  | "TIMESTAMPTZ" | "TIMETZ" => after key lengthText
  | "INTERVAL" => some (pure ⟨"INTERVAL", false, true⟩)
  | "ENUM" | "SET" => after key stringsText
  | "SIGNED" | "UNSIGNED" => some do
    if ← keyword "INTEGER" then pure (.known (key ++ " INTEGER")) else pure (.known key)
  | "TSVECTOR" | "TSQUERY" => if d = .generic || d = .postgresql then plain key else none
  | _ => none

/-- Brackets after a type, which make it an array. -/
def arrayBrackets (t : DeclaredType) : Reader DeclaredType := do
  if (← dialect).hasArrayTypes then
    grow (fun t => do
      if ← symbol "[" then
        let size ← attempt wholeNumber
        needSymbol "]"
        pure (some (.known (t.text ++ "[" ++ clause "" (size.map toString) ++ "]")))
      else pure none) t
  else pure t

def dataTypeFrom : Nat → Reader DeclaredType
  | 0 => expected "a data type name"
  | fuel + 1 => do
    match ← peek with
    | some { token := .word _ _, key := key, .. } =>
      if key == "ARRAY" then
        skip
        needSymbol "<"
        let inner ← dataTypeFrom fuel
        needSymbol ">"
        arrayBrackets (.known ("ARRAY<" ++ inner.text ++ ">"))
      else
        match knownType (← dialect) key with
        | some more =>
          skip
          arrayBrackets (← more)
        | none => arrayBrackets (← customType)
    | _ => expected "a data type name"

def dataType : Reader DeclaredType := do
  dataTypeFrom ((← left) + 1)

end SqlAudit.Sql
