import SqlAudit.Toml.Scalar

/-! # Documents

A document is a table of tables, arrays and scalars. It is built line by line: a header opens a
table, and an entry adds to the table that is open. No key of a table is given twice, and a table is
opened only once.
-/

namespace SqlAudit.Toml

/-- How a table came to be. -/
inductive Origin where
  /-- By a header of its own. -/
  | header
  /-- As part of a longer header. -/
  | implied
  /-- As part of a dotted key. -/
  | dotted
  /-- In braces. -/
  | inline
  deriving DecidableEq, Repr, Inhabited

mutual

/-- A value with its place in the text. -/
inductive Value where
  | scalar (value : Scalar) (span : Span)
  /-- An array; `growing` if headers add tables to it. -/
  | array (items : List Value) (growing : Bool) (span : Span)
  | table (table : Table) (span : Span)

/-- A table: its fields in the order in which they were given. -/
inductive Table where
  | mk (origin : Origin) (fields : List (String × Value))

end

/-- A part of a key with its place in the text. -/
structure Key where
  name : String
  span : Span
  deriving Repr, Inhabited

namespace Value

def span : Value → Span
  | .scalar _ s | .array _ _ s | .table _ s => s

/-- What a value is called that cannot be extended. -/
def kindName : Value → String
  | .scalar (.string _) _ => "string"
  | .scalar (.integer _) _ => "integer"
  | .scalar (.float _) _ => "float"
  | .scalar (.boolean _) _ => "boolean"
  | .scalar (.date _) _ => "datetime"
  | .array _ _ _ => "array"
  | .table _ _ => "inline table"

end Value

namespace Table

def origin : Table → Origin
  | .mk origin _ => origin

def fields : Table → List (String × Value)
  | .mk _ fields => fields

def empty (origin : Origin) : Table := .mk origin []

def get? (t : Table) (name : String) : Option Value :=
  (t.fields.find? (·.1 = name)).map Prod.snd

/-- The table with a field set: in its old place, or else at the end. -/
def set (t : Table) (name : String) (v : Value) : Table :=
  if (t.get? name).isSome then
    .mk t.origin (t.fields.map fun f => if f.1 = name then (name, v) else f)
  else .mk t.origin (t.fields ++ [(name, v)])

def duplicate (k : Key) : Fault := ⟨"duplicate key", k.span⟩

/-- Changes the table that a path leads to. Tables that are not there are made on the way; the path
goes to the last table of an array of tables, and a dotted key does not go into tables with a
header. -/
def change (dotted : Bool) (f : Table → Except Fault Table) : List Key → Table → Except Fault Table
  | [], t => f t
  | k :: path, t => do
    let wrong (v : Value) : Fault :=
      ⟨"cannot extend value of type " ++ v.kindName ++ " with a dotted key", k.span⟩
    match t.get? k.name with
    | none =>
      let inner ← change dotted f path (empty (if dotted then .dotted else .implied))
      pure (t.set k.name (.table inner k.span))
    | some (.table inner span) =>
      if inner.origin = .inline then throw (wrong (.table inner span))
      else if dotted && inner.origin = .header then throw (duplicate k)
      else pure (t.set k.name (.table (← change dotted f path inner) span))
    | some (.array items true span) =>
      match items.getLast? with
      | some (.table inner innerSpan) =>
        let inner ← change dotted f path inner
        pure (t.set k.name (.array (items.dropLast ++ [.table inner innerSpan]) true span))
      | _ => throw (wrong (.array items true span))
    | some v => throw (wrong v)

def addEntry (path : List Key) (k : Key) (v : Value) (t : Table) : Except Fault Table :=
  let dotted := !path.isEmpty
  change dotted (fun parent =>
    if decide (parent.origin = .dotted) != dotted || (parent.get? k.name).isSome then
      .error (duplicate k)
    else .ok (parent.set k.name v)) path t

end Table

/-- The parts of a key and its last part. -/
def readKey (raws : List Raw) : Except Fault (List Key × Key) := do
  let parts ← raws.mapM fun raw => do pure (⟨← Scalar.keyText raw, raw.span⟩ : Key)
  match parts.getLast? with
  | some last => pure (parts.dropLast, last)
  | none => throw ⟨"unquoted keys cannot be empty", ⟨0, 0⟩⟩

mutual

/-- What a written value means. -/
def RawValue.read : RawValue → Except Fault Value
  | .scalar raw => (Scalar.ofRaw raw).map (.scalar · raw.span)
  | .array items span => do pure (.array (← readAll items) false span)
  | .table entries span => do pure (.table (← readEntries entries (.empty .inline)) span)

def readAll : List RawValue → Except Fault (List Value)
  | [] => .ok []
  | v :: vs => do pure ((← v.read) :: (← readAll vs))

def readEntries : List RawEntry → Table → Except Fault Table
  | [], t => .ok t
  | ⟨name, v⟩ :: rest, t => do
    let (path, k) ← readKey name
    readEntries rest (← t.addEntry path k (← v.read))

end

/-- A table with a header that is still open. -/
structure OpenTable where
  path : List Key
  key : Key
  isArray : Bool
  span : Span

/-- A document while it is built: what is finished, the table that is open and where it belongs. -/
structure Builder where
  root : Table := .empty .header
  current : Table := .empty .header
  opened : Option OpenTable := none

namespace Builder

/-- Puts the open table where it belongs. -/
def finish (b : Builder) : Except Fault Table :=
  match b.opened with
  | none => .ok b.current
  | some o =>
    let v : Value := .table b.current o.span
    Table.change false (fun parent =>
      if o.isArray then
        match parent.get? o.key.name with
        | none => .ok (parent.set o.key.name (.array [v] true o.span))
        | some (.array items true span) =>
          .ok (parent.set o.key.name (.array (items ++ [v]) true span))
        | some _ => .error (Table.duplicate o.key)
      else .ok (parent.set o.key.name v)) o.path b.root

/-- The fields of the table that a path leads to, if there is one. -/
def fieldsAt : List Key → Table → List (String × Value)
  | [], t => t.fields
  | k :: path, t =>
    match t.get? k.name with
    | some (.table inner _) => fieldsAt path inner
    | some (.array items _ _) =>
      match items.getLast? with
      | some (.table inner _) => fieldsAt path inner
      | _ => []
    | _ => []

/-- Opens a table. One that was only implied so far keeps its fields, and any other cannot be opened
again. -/
def openTable (o : OpenTable) (root : Table) : Except Fault Builder := do
  if o.isArray then pure ⟨root, .empty .header, some o⟩
  else
    let root ← Table.change false (fun parent =>
      match parent.get? o.key.name with
      | none | some (.table (.mk .implied _) _) => .ok parent
      | some _ => .error (Table.duplicate o.key)) o.path root
    pure ⟨root, .mk .header (fieldsAt (o.path ++ [o.key]) root), some o⟩

def add (b : Builder) : Line → Except Fault Builder
  | .header name isArray span => do
    let root ← b.finish
    let (path, k) ← readKey name
    openTable ⟨path, k, isArray, span⟩ root
  | .entry e => do
    let (path, k) ← readKey e.key
    pure { b with current := ← b.current.addEntry path k (← e.value.read) }

end Builder

def Document.read (source : String) : Except Fault Table := do
  (← (← lines source).foldlM Builder.add {}).finish

end SqlAudit.Toml
