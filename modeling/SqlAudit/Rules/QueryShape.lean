import SqlAudit.Review.Rule
import SqlAudit.Tree.ExprText
import SqlAudit.Walk.Expr
import SqlAudit.Walk.Nodes

/-! # Rules on the shape of queries

Queries that read whole tables, read every column, combine many tables, page without an order or
page deep, and conditions of `HAVING` that belong into `WHERE`.
-/

namespace SqlAudit.Rules

/-- Texts between backquotes, with commas between them. -/
def quotedNames (names : List String) : String :=
  "`" ++ Text.joinWith "`, `" names ++ "`"

/-! ## Whole table reads -/

def fullScanInfo : RuleInfo :=
  ⟨"full-scan", "Full table scan", .critical, .performance⟩

/-- The relations a FROM entry lists directly: its own and those of its joins. -/
def listedRelations (item : FromItem) : List Relation :=
  item.relation :: item.joins.map (·.relation)

/-- The known tables with more rows than a block may read whole, with their row counts. -/
def scanCandidates (ctx : Context) (block : Select) : List (String × Nat) :=
  let counted := (block.fromItems.flatMap listedRelations).filterMap fun
    | .table name _ => (ctx.table? name).bind fun t => t.rowCount.map (t.name, ·)
    | _ => none
  counted.filter fun candidate => candidate.2 > ctx.settings.thresholds.smallTableRows

def hasOuterWildcard (pattern : String) : Bool :=
  pattern.toList.head? == some '%' || pattern.toList.getLast? == some '%'

/-- Why a condition makes an index useless, if it does. -/
def scanShapeOf : Expr → Option String
  | .binary left .notEq right =>
    some ("a not-equal comparison `" ++ (Expr.binary left .notEq right).toText ++ "`")
  | .inList _ _ true | .inQuery _ _ true => some "NOT IN"
  | .existsQuery _ true => some "NOT EXISTS"
  | .like _ pattern _ _ =>
    match pattern.asLiteral with
    | some (.string p) =>
      if hasOuterWildcard p then some ("LIKE with wildcard pattern '" ++ p ++ "'") else none
    | _ => none
  | _ => none

/-- The first condition of a `WHERE` that makes an index useless. -/
def scanShape (filter : Expr) : Option String :=
  filter.preorder.findSome? scanShapeOf

/-- The remark on a table that a block without `WHERE` reads. -/
def wholeReadRemark (candidate : String × Nat) : String :=
  "Query reads every row of `" ++ candidate.1 ++ "` (~" ++ toString candidate.2 ++
    " rows) because it has no WHERE clause; add a selective condition on an indexed column"

/-- The remark on a `WHERE` that makes the indexes of the tables useless. -/
def scanShapeRemark (tables : List String) (shape : String) : String :=
  "WHERE on " ++ quotedNames tables ++ " uses " ++ shape ++
    ", which cannot use an index and scans the table; " ++
    "rewrite it as a positive, index-friendly condition"

def fullScanOf (ctx : Context) (block : Select) : List String :=
  let candidates := scanCandidates ctx block
  if candidates.isEmpty then []
  else
    match block.filter with
    | none => candidates.map wholeReadRemark
    | some filter =>
      match scanShape filter with
      | some shape => [scanShapeRemark (candidates.map Prod.fst) shape]
      | none => []

/-- Blocks that read a whole table of some size. -/
def fullScan : Rule :=
  .ofDetails fullScanInfo fun ctx => ctx.statement.selects.flatMap (fullScanOf ctx)

/-! ## Select lists and joins -/

mutual

/-- The names of the plain tables a FROM entry reads, through any depth of parenthesised joins. -/
def itemNames : FromItem → List String
  | ⟨relation, joins⟩ => relationNames relation ++ joinNames joins

def joinNames : List Join → List String
  | [] => []
  | ⟨relation, _⟩ :: rest => relationNames relation ++ joinNames rest

/-- The name of a plain table, or the names inside a parenthesised join. -/
def relationNames : Relation → List String
  | .table name _ => [name.toText]
  | .nested item => itemNames item
  | .derived _ _ => []
  | .function _ _ => []

end

def blockNames (block : Select) : List String :=
  block.fromItems.flatMap itemNames

def selectStarInfo : RuleInfo :=
  ⟨"select-star", "SELECT *", .minor, .performance⟩

/-- Blocks whose select list holds a wildcard. -/
def selectStar : Rule :=
  .ofDetails selectStarInfo fun ctx =>
    (ctx.statement.selects.filter Select.hasWildcard).map fun block =>
      let names := blockNames block
      let source := if names.isEmpty then "" else " from " ++ quotedNames names
      "SELECT * reads every column" ++ source ++ "; list only the columns the caller needs"

def multiJoinInfo : RuleInfo :=
  ⟨"multi-join", "Too many joined tables", .critical, .performance⟩

/-- The remark on a block that combines too many tables. -/
def joinRemark (limit count : Nat) (names : List String) : String :=
  "Query combines " ++ toString count ++ " tables (" ++ Text.joinWith ", " names ++
    "), more than the limit of " ++ toString limit ++ "; split it or denormalize the hot path"

/-- Blocks that read more relations than allowed. -/
def multiJoin : Rule :=
  .ofDetails multiJoinInfo fun ctx =>
    let limit := ctx.settings.thresholds.maxJoinTables
    (ctx.statement.selects.filter (·.tableCount > limit)).map fun block =>
      joinRemark limit block.tableCount (blockNames block)

/-! ## Paging -/

def limitWithoutOrderInfo : RuleInfo :=
  ⟨"limit-without-order", "LIMIT without ORDER BY", .minor, .correctness⟩

/-- Query levels with a limit and no order. -/
def limitWithoutOrder : Rule :=
  .ofDetails limitWithoutOrderInfo fun ctx =>
    ((ctx.statement.queries.filter (·.orderBy.isEmpty)).filterMap (·.limit)).map fun limit =>
      "LIMIT " ++ limit.toText ++ " without ORDER BY returns an unspecified subset of rows; " ++
        "add an ORDER BY on a unique key"

def deepOffsetInfo : RuleInfo :=
  ⟨"deep-offset", "Deep OFFSET pagination", .critical, .performance⟩

/-- The remark on an offset above the threshold. -/
def offsetRemark (most n : Nat) : String :=
  "OFFSET " ++ toString n ++ " reads and discards " ++ toString n ++ " rows (threshold " ++
    toString most ++ "); paginate with a keyset condition such as `WHERE id > last_seen_id`"

/-- Query levels whose literal offset is too large. -/
def deepOffset : Rule :=
  .ofDetails deepOffsetInfo fun ctx =>
    let most := ctx.settings.thresholds.maxOffset
    ((ctx.statement.queries.filterMap Query.offsetCount).filter (· > most)).map (offsetRemark most)

/-! ## HAVING -/

/-- Functions that combine the rows of a group. -/
def aggregateNames : List String :=
  ["COUNT", "SUM", "AVG", "MIN", "MAX", "GROUP_CONCAT", "STRING_AGG", "ARRAY_AGG",
   "LISTAGG", "STDDEV", "STDDEV_POP", "STDDEV_SAMP", "VARIANCE", "VAR_POP", "VAR_SAMP", "BIT_AND",
   "BIT_OR", "BIT_XOR", "BOOL_AND", "BOOL_OR", "ANY_VALUE"]

/-- The node is a call of an aggregate without a window. -/
def isAggregateCall : Expr → Bool
  | .call name _ _ _ windowed => !windowed && aggregateNames.any (Text.same name ·)
  | _ => false

/-- The expression holds an aggregate call outside nested queries. -/
def containsAggregate (e : Expr) : Bool :=
  e.preorder.any isAggregateCall

/-- The aliases of select list entries that hold an aggregate call. -/
def aggregateAliases (block : Select) : List String :=
  block.items.filterMap fun
    | .expr value (some aliasName) => if containsAggregate value then some aliasName else none
    | _ => none

mutual

/-- The column references outside aggregate calls and nested queries, in written order. -/
def plainColumns : Expr → List ColumnRef
  | .column ref => [ref]
  | .literal _ => []
  | .binary left _ right => plainColumns left ++ plainColumns right
  | .unary _ operand => plainColumns operand
  | .nested inner => plainColumns inner
  | .isNull operand _ => plainColumns operand
  | .inList operand items _ => plainColumns operand ++ plainColumnsAll items
  | .inQuery operand _ _ => plainColumns operand
  | .existsQuery _ _ => []
  | .scalarQuery _ => []
  | .like operand pattern _ _ => plainColumns operand ++ plainColumns pattern
  | .between operand low high _ =>
    plainColumns operand ++ (plainColumns low ++ plainColumns high)
  | .call name args wildcard distinct windowed =>
    if isAggregateCall (.call name args wildcard distinct windowed) then []
    else plainColumnsAll args
  | .caseWhen operand branches otherwise =>
    plainColumnsOption operand ++ (plainColumnsBranches branches ++ plainColumnsOption otherwise)
  | .cast operand _ => plainColumns operand
  | .other _ => []

def plainColumnsAll : List Expr → List ColumnRef
  | [] => []
  | e :: rest => plainColumns e ++ plainColumnsAll rest

def plainColumnsOption : Option Expr → List ColumnRef
  | none => []
  | some e => plainColumns e

/-- The column references of the branches of a `CASE`. -/
def plainColumnsBranches : List CaseBranch → List ColumnRef
  | [] => []
  | ⟨condition, result⟩ :: rest =>
    plainColumns condition ++ (plainColumns result ++ plainColumnsBranches rest)

end

/-- The texts without repetitions, each at its first place. -/
def distinctTexts : List String → List String
  | [] => []
  | s :: rest => s :: (distinctTexts rest).filter (· != s)

/-- The reference is the alias of an aggregate. -/
def isAggregateAlias (aliases : List String) (ref : ColumnRef) : Bool :=
  ref.qualifier.isNone && aliases.any (Text.same · ref.name)

/-- The columns of a `HAVING` that could be tested before grouping. -/
def earlyColumns (block : Select) (having : Expr) : List String :=
  let aliases := aggregateAliases block
  distinctTexts (((plainColumns having).filter (!isAggregateAlias aliases ·)).map ColumnRef.toText)

def havingToWhereInfo : RuleInfo :=
  ⟨"having-to-where", "Non-aggregate condition in HAVING", .critical, .performance⟩

/-- The remark on plain columns in a `HAVING`. -/
def havingRemark (names : List String) : String :=
  "HAVING filters on non-aggregated column(s) " ++ Text.joinWith ", " names ++
    "; move the condition to WHERE so rows are filtered before grouping and indexes apply"

/-- The remark on one block, if its `HAVING` tests plain columns. -/
def havingToWhereOf (block : Select) : Option String :=
  block.having.bind fun having =>
    let names := earlyColumns block having
    if names.isEmpty then none else some (havingRemark names)

/-- Blocks whose `HAVING` tests columns that are not aggregated. -/
def havingToWhere : Rule :=
  .ofDetails havingToWhereInfo fun ctx => ctx.statement.selects.filterMap havingToWhereOf

end SqlAudit.Rules
