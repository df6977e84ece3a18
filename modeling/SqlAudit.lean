import SqlAudit.Main
import SqlAudit.Proofs.Place
import SqlAudit.Proofs.WalkOrder
import SqlAudit.Proofs.WalkCoverage
import SqlAudit.Proofs.Leaves
import SqlAudit.Proofs.Ranking
import SqlAudit.Proofs.Rewriting
import SqlAudit.Proofs.FindingCounts
import SqlAudit.Proofs.Parentheses
import SqlAudit.Proofs.RewrittenPlaces
import SqlAudit.Proofs.RuleIsolation
import SqlAudit.Proofs.NamedTables
import SqlAudit.Proofs.CatalogKeys
import SqlAudit.Proofs.LetterCase
import SqlAudit.Proofs.IdentifierCase
import SqlAudit.Proofs.CosmeticRewriting
import SqlAudit.Proofs.Operands
import SqlAudit.Proofs.Enumeration
import SqlAudit.Proofs.SchemaPieces
import SqlAudit.Proofs.IndexedColumns
import SqlAudit.Proofs.SetOperations
import SqlAudit.Proofs.OperandPlaces
import SqlAudit.Proofs.Outcomes
import SqlAudit.Proofs.JoinPredicates
import SqlAudit.Proofs.PredicateSites
import SqlAudit.Proofs.RaisedThresholds
import SqlAudit.Proofs.DeclaredIndexes
import SqlAudit.Proofs.RewrittenWalk
import SqlAudit.Proofs.MirroredComparisons
import SqlAudit.Proofs.ColumnResolution
import SqlAudit.Proofs.ScannedTables
import SqlAudit.Proofs.WithNames
import SqlAudit.Proofs.PredicateFindings
import SqlAudit.Proofs.Numerals
import SqlAudit.Proofs.DeepOffsets
import SqlAudit.Proofs.DroppedIndexes
import SqlAudit.Proofs.KeyColumns
import SqlAudit.Proofs.LastRowCounts
import SqlAudit.Proofs.LeafPlaces
import SqlAudit.Proofs.ArithmeticSides
import SqlAudit.Proofs.HavingColumns
import SqlAudit.Proofs.TypeChanges
import SqlAudit.Proofs.Blanks
import SqlAudit.Proofs.BaseTypeNames
import SqlAudit.Proofs.RowCountEntries
import SqlAudit.Proofs.SurfacedPositions
import SqlAudit.Proofs.ColorSequences
import SqlAudit.Proofs.JsonGrammar
import SqlAudit.Proofs.JsonReports
import SqlAudit.Proofs.FilePrecedence
import SqlAudit.Proofs.CurrentDatabase
import SqlAudit.Proofs.ExpressionVisits
import SqlAudit.Proofs.DateLiterals
import SqlAudit.Proofs.DottedNames
import SqlAudit.Proofs.IndexKeys
