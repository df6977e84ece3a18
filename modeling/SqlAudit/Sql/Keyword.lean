import SqlAudit.Sql.Dialect

/-! # Reserved keywords

Most keywords may be used as names. These lists hold the ones that may not stand where a name
without `AS` would be taken as an alias.
-/

namespace SqlAudit.Sql

def notTableAlias : List String :=
  ["WITH", "EXPLAIN", "ANALYZE", "SELECT", "WHERE", "GROUP", "SORT", "HAVING", "ORDER",
   "PIVOT", "UNPIVOT", "TOP", "LATERAL", "VIEW", "LIMIT", "OFFSET", "FETCH", "UNION", "EXCEPT",
   "INTERSECT", "MINUS", "ON", "JOIN", "INNER", "CROSS", "FULL", "LEFT", "RIGHT", "NATURAL",
   "USING", "CLUSTER", "DISTRIBUTE", "GLOBAL", "ANTI", "SEMI", "RETURNING", "OUTPUT", "ASOF",
   "MATCH_CONDITION", "OUTER", "SET", "QUALIFY", "WINDOW", "END", "FOR", "PARTITION", "PREWHERE",
   "SETTINGS", "FORMAT", "START", "CONNECT", "MATCH_RECOGNIZE", "SAMPLE", "TABLESAMPLE",
   "FROM", "OPEN"]

/-- Keywords that are no alias of a table in MySQL either, where they begin an index hint or a join.
-/
def notTableAliasInMySQL : List String :=
  ["USE", "IGNORE", "FORCE", "STRAIGHT_JOIN"]

def notColumnAlias : List String :=
  ["WITH", "EXPLAIN", "ANALYZE", "SELECT", "WHERE", "GROUP", "SORT", "HAVING", "ORDER",
   "TOP", "LATERAL", "VIEW", "LIMIT", "OFFSET", "FETCH", "UNION", "EXCEPT", "EXCLUDE", "INTERSECT",
   "MINUS", "CLUSTER", "DISTRIBUTE", "RETURNING", "VALUES", "FROM", "INTO", "END"]

def isTableAlias (d : Dialect) (key : String) : Bool :=
  !notTableAlias.contains key && !(d = .mysql && notTableAliasInMySQL.contains key)

def isColumnAlias (key : String) : Bool :=
  !notColumnAlias.contains key

/-- Keywords that begin an expression and are never the name of a column. -/
def isReservedExpression (d : Dialect) (key : String) : Bool :=
  ["EXISTS", "STRUCT", "TRIM"].contains key || (key == "INTERVAL" && d != .postgresql)

def timeUnits : List String :=
  ["YEAR", "YEARS", "MONTH", "MONTHS", "WEEK", "WEEKS", "DAY", "DAYS", "DATE", "HOUR",
   "HOURS", "MINUTE", "MINUTES", "SECOND", "SECONDS", "CENTURY", "DECADE", "DOW", "DOY", "EPOCH",
   "ISODOW", "ISOYEAR", "JULIAN", "MICROSECOND", "MICROSECONDS", "MILLENIUM", "MILLENNIUM",
   "MILLISECOND", "MILLISECONDS", "NANOSECOND", "NANOSECONDS", "QUARTER", "TIMEZONE",
   "TIMEZONE_HOUR", "TIMEZONE_MINUTE"]

/-- Further words that name a part of a time. -/
def timeParts : List String :=
  ["DAYOFWEEK", "DAYOFYEAR", "DATETIME", "TIME", "ISOWEEK", "TIMEZONE_ABBR", "TIMEZONE_REGION",
    "NODATETIME"]

end SqlAudit.Sql
