import SqlAudit.Proofs.CosmeticRewriting

/-! # Reviews and the letter case of identifiers

Two statements that are spelled alike up to the case of letters in their identifiers give reviews
with the same rules and severities in the same order. Each identifier may change on its own, in any
clause and at any depth: names of tables, aliases, columns and their qualifiers, aliases of results,
names of common table expressions, functions, types, constraints and indexes. Literals are not
identifiers and stay.
-/

namespace SqlAudit

/-- Spells every identifier in small letters. -/
def Rewriting.foldCase : Rewriting :=
  ⟨Text.lower, id⟩

/-- Changing the case of names is a cosmetic change. -/
theorem Rewriting.foldCase_cosmetic : Rewriting.foldCase.Cosmetic where
  plain _ _ := Or.inl rfl
  nested _ := Or.inl rfl
  letters := Text.lower_lower

/-- Two statements that become the same when all identifiers are spelled in small letters, so that
they differ at most in the case of letters in identifiers, give reviews with the same rules and
severities in the same order. -/
theorem review_ignores_identifier_case (settings : Settings) (catalog : Catalog) {s s' : Statement}
    (hcase : s.rewrite .foldCase = s'.rewrite .foldCase) :
    (review Rules.builtin settings catalog s).findings.map (fun f => (f.ruleId, f.severity)) =
      (review Rules.builtin settings catalog s').findings.map
        (fun f => (f.ruleId, f.severity)) := by
  refine review_tags_eq_of_counts fun rule hrule => ?_
  have hfold := Rewriting.foldCase_cosmetic.keepsCount rule hrule
  calc rule.count ⟨s, catalog, settings⟩
      = rule.count ⟨s.rewrite .foldCase, catalog, settings⟩ := (hfold s catalog settings).symm
    _ = rule.count ⟨s'.rewrite .foldCase, catalog, settings⟩ := by rw [hcase]
    _ = rule.count ⟨s', catalog, settings⟩ := hfold s' catalog settings

/-- `SELECT Max(u.Age) AS Oldest FROM Shop.Users AS u WHERE u.Name = 5
HAVING Oldest > 1 AND u.Kind = 2`. -/
def oldestUser : Statement :=
  .query ⟨[], .select ⟨false,
    [.expr (.call "Max" [.column ⟨some "u", "Age"⟩] false false false) (some "Oldest")],
    [⟨.table ⟨["Shop", "Users"]⟩ (some "u"), []⟩],
    some (.binary (.column ⟨some "u", "Name"⟩) .eq (.literal (.number "5"))), [],
    some (.binary (.binary (.column ⟨none, "Oldest"⟩) .gt (.literal (.number "1"))) .and
      (.binary (.column ⟨some "u", "Kind"⟩) .eq (.literal (.number "2"))))⟩, [], none, none⟩

/-- `SELECT MAX(U.AGE) AS oldest FROM SHOP.users AS u WHERE U.name = 5
HAVING OLDEST > 1 AND U.kind = 2`. -/
def oldestUserRespelled : Statement :=
  .query ⟨[], .select ⟨false,
    [.expr (.call "MAX" [.column ⟨some "U", "AGE"⟩] false false false) (some "oldest")],
    [⟨.table ⟨["SHOP", "users"]⟩ (some "u"), []⟩],
    some (.binary (.column ⟨some "U", "name"⟩) .eq (.literal (.number "5"))), [],
    some (.binary (.binary (.column ⟨none, "OLDEST"⟩) .gt (.literal (.number "1"))) .and
      (.binary (.column ⟨some "U", "kind"⟩) .eq (.literal (.number "2"))))⟩, [], none, none⟩

/-- `USERS (NAME VARCHAR)` with an index on the column. -/
def usersByName : Catalog :=
  Catalog.empty.insert
    ⟨"USERS", some 5000, [⟨"NAME", "VARCHAR", true⟩], [⟨"by_name", ["nAmE"], .normal⟩]⟩

/-- Each occurrence of a name may be spelled in its own way: the table, its alias, the column, the
aggregate and the alias of its result are still recognised. -/
theorem review_ignores_identifier_case_users :
    oldestUserRespelled.rewrite .foldCase = oldestUser.rewrite .foldCase ∧
    (review Rules.builtin { database := some "sHOP" } usersByName oldestUserRespelled).findings.map
        (fun f => (f.ruleId, f.severity)) =
      [("implicit-type-conversion", .blocker), ("having-to-where", .critical)] := by
  have hcase : oldestUserRespelled.rewrite .foldCase = oldestUser.rewrite .foldCase := by cbv
  refine ⟨hcase, (review_ignores_identifier_case { database := some "sHOP" } usersByName
    hcase).trans ?_⟩
  decide +kernel

end SqlAudit
