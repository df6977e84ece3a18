import SqlAudit.Sql.Routine

/-! # Objects beside tables

Sequences, types, extensions, roles, policies and the like: how they are created, changed and
dropped. The review sees only their text. Each reader stands after the keyword for its object.
-/

namespace SqlAudit.Sql

open Reader

/-- A clause that a keyword begins, if it is next, as text. -/
def keyedText (key : String) (p : Reader String) : Reader String := do
  if ← keyword key then pure (" " ++ key ++ " " ++ (← p)) else pure ""

def quotedString : Reader String := do
  pure (quoteText '\x27' (← literalString))

def nameText : Reader String := do
  pure (namesText (← objectName))

def wordText : Reader String := do
  pure (← ident).text

/-! ## Sequences -/

def createSequenceText (g : Grammar) (opening : String) : Reader String := do
  let exists_ ← ifNotExists
  let name ← nameText
  let type ← keyedText "AS" do pure (← dataType).text
  let options ← sequenceText g
  let owner ← if ← keywords ["OWNED", "BY"] then pure (some (← nameText)) else pure none
  pure (opening ++ "SEQUENCE " ++ exists_ ++ name ++ type ++ options ++ clause " OWNED BY " owner)

/-! ## Types -/

def typeAttribute : Reader String := do
  let name ← ident
  let type ← dataType
  pure (name.text ++ " " ++ type.text ++ (← keyedText "COLLATE" nameText))

/-- The options of a type, each with the reader of its value. -/
def typeOptions (g : Grammar) : List (String × Reader String) :=
  let names := ["INPUT", "OUTPUT", "RECEIVE", "SEND", "TYPMOD_IN", "TYPMOD_OUT", "ANALYZE",
    "SUBSCRIPT", "LIKE"]
  names.map (·, nameText) ++
    [("INTERNALLENGTH", do
        if ← keyword "VARIABLE" then pure "VARIABLE" else pure (toString (← wholeNumber))),
     ("ALIGNMENT", wordText), ("STORAGE", wordText), ("CATEGORY", quotedString),
     ("PREFERRED", do pure (Text.lower (← needOneOf ["TRUE", "FALSE"]))),
     ("DEFAULT", do pure (← g.anyExpr).text), ("ELEMENT", do pure (← dataType).text),
     ("DELIMITER", quotedString),
     ("COLLATABLE", do pure (Text.lower (← needOneOf ["TRUE", "FALSE"])))]

def rangeOptions : List (String × Reader String) :=
  ("SUBTYPE", do pure (← dataType).text) ::
    ["SUBTYPE_OPCLASS", "COLLATION", "CANONICAL", "SUBTYPE_DIFF", "MULTIRANGE_TYPE_NAME"].map
      (·, nameText)

/-- One of some options, with an equals sign before its value, as text. -/
def assignedOption (options : List (String × Reader String)) : Reader String := do
  let key ← needOneOf (options.map Prod.fst)
  needSymbol "="
  match options.find? (·.1 == key) with
  | some (_, value) => pure (key ++ " = " ++ (← value))
  | none => pure key

def typeOption (g : Grammar) : Reader String := do
  if ← keyword "PASSEDBYVALUE" then pure "PASSEDBYVALUE" else assignedOption (typeOptions g)

/-- What a type is made of, after `AS`. -/
def typeBody : Reader String := do
  if ← keyword "ENUM" then
    let labels ← parenthesised (commas0 ")" ident)
    pure ("AS ENUM (" ++ identsText labels ++ ")")
  else if ← keyword "RANGE" then
    let options ← parenthesised (commas0 ")" (assignedOption rangeOptions))
    pure ("AS RANGE (" ++ commaText options ++ ")")
  else if ← atSymbol "(" then
    let attributes ← parenthesised (commas0 ")" typeAttribute)
    pure ("AS (" ++ commaText attributes ++ ")")
  else expected "ENUM, RANGE, or '(' after AS"

def createTypeText (g : Grammar) : Reader String := do
  let name ← nameText
  let body ← do
    if ← keyword "AS" then pure (some (← typeBody))
    else if ← atSymbol "(" then
      let options ← parenthesised (commas (typeOption g))
      pure (some ("(" ++ commaText options ++ ")"))
    else pure none
  pure ("CREATE TYPE " ++ name ++ clause " " body)

def alterTypeText : Reader String := do
  let opening := "ALTER TYPE " ++ (← nameText)
  if ← keywords ["RENAME", "TO"] then pure (opening ++ " RENAME TO " ++ (← wordText))
  else if ← keywords ["ADD", "VALUE"] then
    let exists_ ← ifNotExists
    let value ← wordText
    let position ← do
      match ← oneOf ["BEFORE", "AFTER"] with
      | some key => pure (" " ++ key ++ " " ++ (← wordText))
      | none => pure ""
    pure (opening ++ " ADD VALUE " ++ exists_ ++ value ++ position)
  else if ← keywords ["RENAME", "VALUE"] then
    let old ← wordText
    needKeyword "TO"
    pure (opening ++ " RENAME VALUE " ++ old ++ " TO " ++ (← wordText))
  else expected "\x7bRENAME TO | \x7b RENAME | ADD \x7d VALUE\x7d"

def createDomainText (g : Grammar) : Reader String := do
  let name ← nameText
  needKeyword "AS"
  let type ← dataType
  let collation ← keyedText "COLLATE" wordText
  let default_ ← keyedText "DEFAULT" do pure (← g.anyExpr).text
  let constraints ← many (tableConstraint? g)
  pure ("CREATE DOMAIN " ++ name ++ " AS " ++ type.text ++ collation ++ default_ ++
    String.join (constraints.map fun c => " " ++ c.text))

/-! ## Extensions and servers -/

def createExtensionText : Reader String := do
  let exists_ ← ifNotExists
  let name ← wordText
  let options ← if ← keyword "WITH" then do
      let schema ← keyedText "SCHEMA" wordText
      let version ← keyedText "VERSION" wordText
      let cascade := if ← keyword "CASCADE" then " CASCADE" else ""
      pure (schema ++ version ++ cascade)
    else pure ""
  pure ("CREATE EXTENSION " ++ exists_ ++ name ++
    (if options.isEmpty then "" else " WITH" ++ options))

def dropExtensionText : Reader String := do
  let exists_ ← ifExists
  let names ← commas ident
  pure ("DROP EXTENSION " ++ exists_ ++ identsText names ++ (← dropBehaviour))

def createServerText : Reader String := do
  let exists_ ← ifNotExists
  let name ← nameText
  let kind ← keyedText "TYPE" wordText
  let version ← keyedText "VERSION" wordText
  needKeywords ["FOREIGN", "DATA", "WRAPPER"]
  let wrapper ← nameText
  let options ← if ← keyword "OPTIONS" then do
      let options ← parenthesised (commas do
        let key ← ident
        pure (key.text ++ " " ++ (← wordText)))
      pure (" OPTIONS (" ++ commaText options ++ ")")
    else pure ""
  pure ("CREATE SERVER " ++ exists_ ++ name ++ kind ++ version ++ " FOREIGN DATA WRAPPER " ++
    wrapper ++ options)

/-! ## Roles and users -/

/-- The switches of a role: each can be on, or off with `NO` in front. They are written in this
order. -/
def roleSwitches : List String :=
  ["SUPERUSER", "CREATEDB", "CREATEROLE", "INHERIT", "LOGIN", "REPLICATION", "BYPASSRLS"]

/-- The other options of a role, in the order in which they are written. -/
def roleClauses : List String :=
  ["CONNECTION LIMIT", "PASSWORD", "VALID UNTIL", "IN ROLE", "IN GROUP", "ROLE", "USER", "ADMIN"]

/-- An option of a role, if one is next: what it is about, and its text. -/
def roleOption? (g : Grammar) : Reader (Option (String × String)) := do
  let switches := roleSwitches ++ roleSwitches.map ("NO" ++ ·)
  if let some key ← oneOf switches then
    return some (if roleSwitches.contains key then (key, key)
      else (String.ofList (key.toList.drop 2), key))
  if ← keyword "PASSWORD" then
    let value ← if ← keyword "NULL" then pure "NULL" else pure (← g.anyExpr).text
    return some ("PASSWORD", "PASSWORD " ++ value)
  if let some key ← oneOfPhrases [["CONNECTION", "LIMIT"], ["VALID", "UNTIL"]] then
    return some (key, key ++ " " ++ (← g.anyExpr).text)
  if let some key ← oneOfPhrases [["IN", "ROLE"], ["IN", "GROUP"], ["ROLE"], ["USER"],
    ["ADMIN"]] then
    return some (key, key ++ " " ++ identsText (← commas ident))
  pure none

/-- The options of a role, each given at most once. -/
def roleOptions (g : Grammar) : Reader (List (String × String)) :=
  grow (fun found => do
    match ← roleOption? g with
    | none => pure none
    | some (about, text) =>
      if found.any (·.1 == about) then wrong ("Found multiple " ++ about)
      else pure (some (found ++ [(about, text)]))) []

def createRoleText (g : Grammar) : Reader String := do
  let exists_ ← ifNotExists
  let names ← commas objectName
  let _ ← keyword "WITH"
  let options ← if (← dialect) = .postgresql then roleOptions g else pure []
  let written := (roleSwitches ++ roleClauses).filterMap fun about =>
    (options.find? (·.1 == about)).map fun option => " " ++ option.2
  pure ("CREATE ROLE " ++ exists_ ++ commaText (names.map namesText) ++ String.join written)

/-- The change of a setting of a role, after `SET`, as text. -/
def roleSetting (g : Grammar) : Reader String := do
  let name ← nameText
  if ← keywords ["FROM", "CURRENT"] then pure ("SET " ++ name ++ " FROM CURRENT")
  else
    let given ← do if ← symbol "=" then pure true else keyword "TO"
    if given then
      if ← keyword "DEFAULT" then pure ("SET " ++ name ++ " TO DEFAULT")
      else
        match ← attempt g.anyExpr with
        | some value => pure ("SET " ++ name ++ " TO " ++ value.text)
        | none => expected "config value"
    else expected "'TO' or '=' or 'FROM CURRENT'"

def alterRoleText (g : Grammar) : Reader String := do
  if (← dialect) != .postgresql then
    refuse (.wrong "ALTER ROLE is only support for PostgreSqlDialect, MsSqlDialect" none)
  let opening := "ALTER ROLE " ++ (← wordText) ++ " "
  let database ← do
    if ← keywords ["IN", "DATABASE"] then pure ("IN DATABASE " ++ (← nameText) ++ " ") else pure ""
  if ← keyword "RENAME" then
    if ← keyword "TO" then pure (opening ++ "RENAME TO " ++ (← wordText))
    else expected "TO after RENAME"
  else if ← keyword "SET" then pure (opening ++ database ++ (← roleSetting g))
  else if ← keyword "RESET" then
    let name ← if ← keyword "ALL" then pure "ALL" else nameText
    pure (opening ++ database ++ "RESET " ++ name)
  else
    let _ ← keyword "WITH"
    let options ← many do pure ((← roleOption? g).map Prod.snd)
    if options.isEmpty then expected "option"
    else pure (opening ++ "WITH " ++ Text.joinWith " " options)

/-- Settings of a user, each a word and its value, as text. -/
def userSettings : Reader String := do
  let settings ← many do
    match ← peekAt 1 with
    | some { token := .symbol "=", .. } =>
      let key ← wordText
      skip
      let value ← match ← attempt wordText with
        | some word => pure word
        | none => pure (← value).text
      let _ ← symbol ","
      pure (some (key ++ "=" ++ value))
    | _ => pure none
  pure (Text.joinWith " " settings)

def createUserText (opening : String) : Reader String := do
  let exists_ ← ifNotExists
  let name ← wordText
  pure (opening ++ "USER " ++ exists_ ++ name ++ spaced (← userSettings))

def alterUserText : Reader String := do
  let opening := "ALTER USER " ++ (← ifExists) ++ (← wordText)
  let name ← if ← keywords ["RENAME", "TO"] then pure (some (← wordText)) else pure none
  let reset := if ← keywords ["RESET", "PASSWORD"] then " RESET PASSWORD" else ""
  let abort := if ← keywords ["ABORT", "ALL", "QUERIES"] then " ABORT ALL QUERIES" else ""
  let settings ← keyedText "SET" userSettings
  pure (opening ++ clause " RENAME TO " name ++ reset ++ abort ++ settings)

/-! ## Policies -/

def ownerText : Reader String := do
  match ← oneOf ["CURRENT_USER", "CURRENT_ROLE", "SESSION_USER"] with
  | some key => pure key
  | none => wordText

/-- Whom a policy is for and which rows it lets through, as text. -/
def policyTerms (g : Grammar) : Reader String := do
  let owners ← keyedText "TO" do pure (commaText (← commas ownerText))
  let seen ← keyedText "USING" do pure ("(" ++ (← parenthesised g.anyExpr).text ++ ")")
  let written ← if ← keywords ["WITH", "CHECK"] then
      pure (" WITH CHECK (" ++ (← parenthesised g.anyExpr).text ++ ")")
    else pure ""
  pure (owners ++ seen ++ written)

/-- The name of a policy and its table. -/
def policyName : Reader String := do
  let name ← wordText
  needKeyword "ON"
  pure (name ++ " ON " ++ (← nameText))

def createPolicyText (g : Grammar) : Reader String := do
  let name ← policyName
  let kind ← keyedText "AS" (needOneOf ["PERMISSIVE", "RESTRICTIVE"])
  let command ← keyedText "FOR" (needOneOf ["ALL", "SELECT", "INSERT", "UPDATE", "DELETE"])
  pure ("CREATE POLICY " ++ name ++ kind ++ command ++ (← policyTerms g))

def alterPolicyText (g : Grammar) : Reader String := do
  let opening := "ALTER POLICY " ++ (← policyName)
  if ← keyword "RENAME" then
    needKeyword "TO"
    pure (opening ++ " RENAME TO " ++ (← wordText))
  else pure (opening ++ (← policyTerms g))

def dropPolicyText : Reader String := do
  let exists_ ← ifExists
  let name ← policyName
  pure ("DROP POLICY " ++ exists_ ++ name ++ (← dropBehaviour))

/-! ## Operators -/

/-- The name of an operator; its last part may be any lexeme. -/
def operatorName : Reader String := do
  let part : Reader String := do
    match ← next with
    | some lexeme => pure lexeme.token.text
    | none => expected "operator name"
  pure (Text.joinWith "." (← separatedFrom part (symbol ".") (← left)))

/-- An operator with the types of its operands. -/
def operatorSignature : Reader String := do
  let name ← operatorName
  let operands ← parenthesised do
    let first ← if ← keyword "NONE" then pure "NONE" else pure (← dataType).text
    needSymbol ","
    pure (first ++ ", " ++ (← dataType).text)
  pure (name ++ " (" ++ operands ++ ")")

/-- A property of an operator: its rank in the text, and its text. -/
def operatorProperty : Reader (Nat × String) := do
  let key ← needOneOf ["FUNCTION", "PROCEDURE", "LEFTARG", "RIGHTARG", "COMMUTATOR", "NEGATOR",
    "RESTRICT", "JOIN", "HASHES", "MERGES"]
  if key == "HASHES" || key == "MERGES" then return (3, key)
  needSymbol "="
  let value ← match key with
    | "LEFTARG" | "RIGHTARG" => pure (← dataType).text
    | "COMMUTATOR" | "NEGATOR" =>
      if ← keyword "OPERATOR" then pure ("OPERATOR(" ++ (← parenthesised operatorName) ++ ")")
      else operatorName
    | _ => nameText
  let rank := match key with
    | "FUNCTION" | "PROCEDURE" => 0
    | "LEFTARG" => 1
    | "RIGHTARG" => 2
    | _ => 3
  pure (rank, key ++ " = " ++ value)

def createOperatorText : Reader String := do
  if ← keyword "FAMILY" then
    let name ← nameText
    needKeyword "USING"
    pure ("CREATE OPERATOR FAMILY " ++ name ++ " USING " ++ (← wordText))
  else
    let name ← operatorName
    let properties ← parenthesised (commas operatorProperty)
    if properties.all (·.1 != 0) then
      refuse (.wrong "CREATE OPERATOR requires FUNCTION or PROCEDURE" none)
    else
      let ranked := (List.range 4).flatMap fun rank => properties.filter (·.1 == rank)
      pure ("CREATE OPERATOR " ++ name ++ " (" ++ commaText (ranked.map Prod.snd) ++ ")")

def dropOperatorText : Reader String := do
  match ← oneOf ["FAMILY", "CLASS"] with
  | some kind =>
    let exists_ ← ifExists
    let names ← commas nameText
    needKeyword "USING"
    let method ← wordText
    pure ("DROP OPERATOR " ++ kind ++ " " ++ exists_ ++ commaText names ++ " USING " ++ method ++
      (← dropBehaviour))
  | none =>
    let exists_ ← ifExists
    let operators ← commas operatorSignature
    pure ("DROP OPERATOR " ++ exists_ ++ commaText operators ++ (← dropBehaviour))

def alterOperatorText : Reader String := do
  let opening := "ALTER OPERATOR " ++ (← operatorSignature)
  if ← keywords ["OWNER", "TO"] then pure (opening ++ " OWNER TO " ++ (← ownerText))
  else
    needKeywords ["SET", "SCHEMA"]
    pure (opening ++ " SET SCHEMA " ++ (← nameText))

/-! ## Schemas and connectors -/

def alterSchemaText : Reader String := do
  let opening := "ALTER SCHEMA " ++ (← ifExists) ++ (← nameText)
  if ← keyword "RENAME" then
    needKeyword "TO"
    pure (opening ++ " RENAME TO " ++ (← nameText))
  else if ← keyword "OWNER" then
    needKeyword "TO"
    pure (opening ++ " OWNER TO " ++ (← ownerText))
  else expected "ALTER SCHEMA operation"

/-- The properties of a connector, if they are next, as text. -/
def connectorProperties (g : Grammar) : Reader String := do
  if ← keyword "DCPROPERTIES" then
    let properties ← parenthesised (commas0 ")" do
      let key ← ident
      needSymbol "="
      pure (key.text ++ " = " ++ (← g.anyExpr).text))
    pure ("DCPROPERTIES(" ++ commaText properties ++ ")")
  else pure ""

def createConnectorText (g : Grammar) : Reader String := do
  let exists_ ← ifNotExists
  let name ← wordText
  let kind ← keyedText "TYPE" quotedString
  let url ← keyedText "URL" quotedString
  let comment ← if ← keyword "COMMENT" then do
      let _ ← symbol "="
      pure (" COMMENT = " ++ (← quotedString))
    else pure ""
  let properties ← keyedText "WITH" (connectorProperties g)
  pure ("CREATE CONNECTOR " ++ exists_ ++ name ++ kind ++ url ++ comment ++ properties)

def alterConnectorText (g : Grammar) : Reader String := do
  let name ← wordText
  needKeyword "SET"
  let properties ← connectorProperties g
  let url ← keyedText "URL" quotedString
  let owner ← keyedText "OWNER" do
    let kind ← needOneOf ["USER", "ROLE"]
    pure (kind ++ " " ++ (← wordText))
  pure ("ALTER CONNECTOR " ++ name ++ " SET" ++ spaced properties ++ url ++ owner)

/-! ## Tables of other kinds -/

def createVirtualTableText : Reader String := do
  needKeyword "TABLE"
  let exists_ ← ifNotExists
  let name ← nameText
  needKeyword "USING"
  let module_ ← wordText
  let arguments ← identList? false
  pure ("CREATE VIRTUAL TABLE " ++ exists_ ++ name ++ " USING " ++ module_ ++
    (if arguments.isEmpty then "" else " (" ++ identsText arguments ++ ")"))

/-! ## Dropping -/

/-- `DROP` for a kind of object that is dropped by one name, after the keywords. -/
def dropNamedText (key : String) (name : Reader String) : Reader String := do
  let exists_ ← ifExists
  pure ("DROP " ++ key ++ " " ++ exists_ ++ (← name))

/-- `DROP` for the kinds of objects with forms of their own, if one is next. -/
def dropOther? (g : Grammar) (temporary : String) : Reader (Option String) := do
  match ← oneOf ["FUNCTION", "POLICY", "CONNECTOR", "DOMAIN", "PROCEDURE", "SECRET", "TRIGGER",
    "EXTENSION", "OPERATOR"] with
  | none => pure none
  | some "POLICY" => pure (some (← dropPolicyText))
  | some "CONNECTOR" => pure (some (← dropNamedText "CONNECTOR" wordText))
  | some "DOMAIN" =>
    pure (some (← dropNamedText "DOMAIN" do pure ((← nameText) ++ (← dropBehaviour))))
  | some "SECRET" =>
    let name : Reader String := do pure ((← wordText) ++ (← keyedText "FROM" wordText))
    pure (some (← dropNamedText (temporary ++ "SECRET") name))
  | some "TRIGGER" => pure (some (← dropTriggerText))
  | some "EXTENSION" => pure (some (← dropExtensionText))
  | some "OPERATOR" => pure (some (← dropOperatorText))
  | some key => pure (some (← dropRoutineText g key))

end SqlAudit.Sql
