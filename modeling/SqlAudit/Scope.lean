import SqlAudit.Catalog.Basic
import SqlAudit.Settings
import SqlAudit.Tree.Statement

/-! # Tables in scope

A review looks at one statement, a catalog and the settings. The predicates of a SELECT block, an
`UPDATE` or a `DELETE` may refer to the tables of its FROM list; `Scope` holds those the catalog
knows, each bound to its alias or, without one, to its name. `Scope.resolve` finds the table and
column a reference means, and refuses where the catalog cannot tell.
-/

namespace SqlAudit

/-- Everything a rule may look at. -/
structure Context where
  statement : Statement
  catalog : Catalog
  settings : Settings

/-- The catalog table of a possibly qualified name. A qualifier other than the current database
makes the table unknown; without a current database the qualifier is ignored. -/
def Context.table? (ctx : Context) (name : ObjectName) : Option Table :=
  match name.qualifier, ctx.settings.database with
  | some qualifier, some database =>
    if Text.same qualifier database then ctx.catalog.find? name.base else none
  | _, _ => ctx.catalog.find? name.base

/-- The catalog tables a FROM list binds. -/
structure Scope where
  /-- Tables under their aliases or names in small letters, in FROM order. -/
  bindings : List (String × Table)
  /-- Every relation in scope is a table the catalog knows. -/
  complete : Bool
  deriving DecidableEq, Repr, Inhabited

namespace Scope

def empty : Scope :=
  ⟨[], true⟩

def bindTable (ctx : Context) (scope : Scope) (name : ObjectName) (aliasName : Option String) :
    Scope :=
  match ctx.table? name with
  | some t =>
    { scope with bindings := scope.bindings ++ [(Text.lower (aliasName.getD name.base), t)] }
  | none => { scope with complete := false }

mutual

def bindItem (ctx : Context) (scope : Scope) : FromItem → Scope
  | ⟨relation, joins⟩ => bindJoins ctx (bindRelation ctx scope relation) joins

def bindJoins (ctx : Context) (scope : Scope) : List Join → Scope
  | [] => scope
  | ⟨relation, _⟩ :: rest => bindJoins ctx (bindRelation ctx scope relation) rest

/-- Binds a relation; a derived table or table function leaves the scope incomplete. -/
def bindRelation (ctx : Context) (scope : Scope) : Relation → Scope
  | .table name aliasName => bindTable ctx scope name aliasName
  | .nested item => bindItem ctx scope item
  | .derived _ _ => { scope with complete := false }
  | .function _ _ => { scope with complete := false }

end

def ofFrom (ctx : Context) (fromItems : List FromItem) : Scope :=
  fromItems.foldl (bindItem ctx) empty

def tables (scope : Scope) : List Table :=
  scope.bindings.map Prod.snd

/-- The first table bound to an alias or name. -/
def table? (scope : Scope) (binding : String) : Option Table :=
  (scope.bindings.find? (Text.same ·.1 binding)).map Prod.snd

/-- The tables in scope that have a column of that name, each with the column. -/
def holders (scope : Scope) (column : String) : List (Table × Column) :=
  scope.tables.filterMap fun t => (t.column column).map (t, ·)

/-- The table and column a reference means. A qualified name is looked up in the table bound to its
qualifier; an unqualified one must belong to exactly one table of a complete scope. -/
def resolve (scope : Scope) (ref : ColumnRef) : Option (Table × Column) :=
  match ref.qualifier with
  | some qualifier =>
    (scope.table? qualifier).bind fun t => (t.column ref.name).map (t, ·)
  | none =>
    if scope.complete then
      match scope.holders ref.name with
      | [found] => some found
      | _ => none
    else none

end Scope

end SqlAudit
