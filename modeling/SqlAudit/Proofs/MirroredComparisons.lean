import SqlAudit.Proofs.CosmeticRewriting

/-! # Direction of comparisons

Every comparison can be written in two directions, as `a < b` or as `b > a`. Turning around all
comparisons of a statement, at every depth and in every clause, does not change how many findings a
built-in rule has. A remark on an implicit conversion names a column and a literal wherever they
stand, so these remarks stay the same; where compared subqueries change places, they come in another
order.
-/

namespace SqlAudit

/-- Exchanges the sides of all comparisons. -/
def Rewriting.mirror : Rewriting :=
  ⟨id, Expr.mirror⟩

/-- Turning every comparison round is a cosmetic change. -/
theorem Rewriting.mirror_cosmetic : Rewriting.mirror.Cosmetic where
  plain _ _ := Or.inr rfl
  nested _ := Or.inl rfl
  letters _ := rfl

/-- Exchanging the sides of all comparisons of a statement, `<` with `>` and `<=` with `>=`, leaves
the number of findings of every built-in rule, and it leaves the findings on implicit conversions
but for their order. -/
theorem rules_ignore_direction_of_comparisons (settings : Settings) (catalog : Catalog)
    (s : Statement) :
    (∀ rule ∈ Rules.builtin, ∃ found found',
      rule.evaluate ⟨s, catalog, settings⟩ = some found ∧
      rule.evaluate ⟨s.rewrite .mirror, catalog, settings⟩ = some found' ∧
      found'.length = found.length) ∧
    ∃ found found',
      Rules.implicitTypeConversion.evaluate ⟨s, catalog, settings⟩ = some found ∧
      Rules.implicitTypeConversion.evaluate ⟨s.rewrite .mirror, catalog, settings⟩ = some found' ∧
      found'.Perm found := by
  constructor
  · intro rule hrule
    obtain ⟨found, hfound, hlength⟩ := builtin_finds ⟨s, catalog, settings⟩ rule hrule
    obtain ⟨found', hfound', hlength'⟩ :=
      builtin_finds ⟨s.rewrite .mirror, catalog, settings⟩ rule hrule
    refine ⟨found, found', hfound, hfound', ?_⟩
    rw [hlength, hlength', Rewriting.mirror_cosmetic.keepsCount rule hrule s catalog settings]
  · exact ⟨_, _, rfl, rfl, Rewriting.mirror_cosmetic.perm_implicitTypeConversion s catalog settings⟩

/-- `SELECT id FROM users WHERE …` -/
def usersWhere (filter : Expr) : Query :=
  ⟨[], .select ⟨false, [.expr (.column ⟨none, "id"⟩) none], [⟨.table ⟨["users"]⟩ none, []⟩],
    some filter, [], none⟩, [], none, none⟩

/-- `SELECT id FROM users
WHERE (SELECT id FROM users WHERE name = 5) < (SELECT id FROM users WHERE 6 <> name)`. -/
def comparedSubqueries : Statement :=
  .query (usersWhere (.binary
    (.scalarQuery (usersWhere (.binary (.column ⟨none, "name"⟩) .eq (.literal (.number "5"))))) .lt
    (.scalarQuery (usersWhere (.binary (.literal (.number "6")) .notEq (.column ⟨none, "name"⟩))))))

/-- `SELECT id FROM users
WHERE (SELECT id FROM users WHERE name <> 6) > (SELECT id FROM users WHERE 5 = name)`. -/
def comparedSubqueriesMirrored : Statement :=
  .query (usersWhere (.binary
    (.scalarQuery (usersWhere (.binary (.column ⟨none, "name"⟩) .notEq (.literal (.number "6")))))
      .gt
    (.scalarQuery (usersWhere (.binary (.literal (.number "5")) .eq (.column ⟨none, "name"⟩))))))

/-- `users (name VARCHAR)` with an index on the column. -/
def usersWithIndex : Catalog :=
  Catalog.empty.insert
    ⟨"users", some 5000, [⟨"name", "VARCHAR", true⟩], [⟨"by_name", ["name"], .normal⟩]⟩

/-- The subqueries change places, and the findings on their comparisons with them. -/
theorem rules_ignore_direction_of_comparisons_subqueries :
    comparedSubqueries.rewrite .mirror = comparedSubqueriesMirrored ∧
    (Rules.fullScan ∈ Rules.builtin ∧ ∃ found found',
      Rules.fullScan.evaluate ⟨comparedSubqueries, usersWithIndex, {}⟩ = some found ∧
      Rules.fullScan.evaluate ⟨comparedSubqueriesMirrored, usersWithIndex, {}⟩ = some found' ∧
      found'.length = found.length) ∧
    ∃ found found',
      Rules.implicitTypeConversion.evaluate ⟨comparedSubqueries, usersWithIndex, {}⟩ = some found ∧
      Rules.implicitTypeConversion.evaluate ⟨comparedSubqueriesMirrored, usersWithIndex, {}⟩ =
        some found' ∧
      found'.Perm found ∧ found' = found.reverse ∧ found.length = 2 := by
  have hmirror : comparedSubqueries.rewrite .mirror = comparedSubqueriesMirrored := by cbv
  have hrule : Rules.fullScan ∈ Rules.builtin := List.mem_cons_self
  obtain ⟨hcounts, found, found', hfound, hfound', hperm⟩ :=
    rules_ignore_direction_of_comparisons {} usersWithIndex comparedSubqueries
  rw [hmirror] at hcounts hfound'
  refine ⟨hmirror, ⟨hrule, hcounts _ hrule⟩, found, found', hfound, hfound', hperm, ?_, ?_⟩
  · rw [← Option.some.inj hfound, ← Option.some.inj hfound']
    decide +kernel
  · rw [← Option.some.inj hfound]
    decide +kernel

end SqlAudit
