import SqlAudit.Review.Engine
import SqlAudit.Rules.Migration
import SqlAudit.Rules.PredicateShape
import SqlAudit.Rules.TableDesign

/-! # The built-in rules -/

namespace SqlAudit.Rules

/-- The built-in rules in registration order. -/
def builtin : List Rule :=
  [fullScan, selectStar, multiJoin, limitWithoutOrder, deepOffset, havingToWhere, nullComparison,
   implicitTypeConversion, fieldArithmetic, missingPrimaryKey, tooManyIndexes, oversizedFieldType,
   avoidForeignKey, riskyTypeChange, addColumnLargeTable, dropColumnWithIndex,
   dropIndexVerification]

end SqlAudit.Rules
