import Mathlib.Data.List.DropRight
import Mathlib.Tactic.Choose
import SqlAudit.Proofs.JoinPredicates

/-! # Where the predicates of a statement stand

A predicate belongs to the `UPDATE`, `DELETE` or SELECT block whose tables it filters. It stands at
the end of a way from there: in the `WHERE`, in the `HAVING`, or in the `ON` of a join. The list of
predicates names each of these sites once, block by block in visiting order. Rules look at the nodes
of the listed predicates; the place of such a node tells the owner, the way to the predicate and the
way to the node apart, so no node is looked at for two predicates.
-/

namespace SqlAudit

/-! ## The sites of one owner -/

/-- The part of the statement that the owner is. -/
def Owner.part : Owner → Part
  | .select block => .select block
  | .update change => .statement (.update change)
  | .delete change => .statement (.delete change)

/-- The ways from an owner to the predicates of a site. -/
def Site.IsWay : Site → Place → Prop
  | .filter, way => way = [.filter]
  | .having, way => way = [.having]
  | .joinOn, way => way.IsOnWay

/-- The predicate stands at the end of the way from its owner. An `UPDATE` or `DELETE` has a
predicate in its `WHERE` only: the `ON` of its joins is none. -/
structure Predicate.StandsAt (p : Predicate) (way : Place) : Prop where
  reaches : Reaches p.owner.part way (.expr p.expr)
  isWay : p.site.IsWay way
  owner : p.site ≠ .filter → ∃ block, p.owner = .select block

theorem Reaches.single_iff {p d : Part} {slot : Slot} :
    Reaches p [slot] d ↔ (slot, d) ∈ p.clauses := by
  constructor
  · intro hreach
    cases hreach with
    | inside hclause hrest =>
        cases hrest
        exact hclause
  · intro hclause
    exact .inside hclause (.here d)

theorem Select.filter_clause_iff {block : Select} {e : Expr} :
    (.filter, .expr e) ∈ (Part.select block).clauses ↔ block.filter = some e := by
  simp [mem_selectClauses, mem_fromClauses]

theorem Select.having_clause_iff {block : Select} {e : Expr} :
    (.having, .expr e) ∈ (Part.select block).clauses ↔ block.having = some e := by
  simp [mem_selectClauses, mem_fromClauses]

/-- A SELECT block lists its `WHERE`, the `ON` predicates of its joins and its `HAVING`, each once.
-/
theorem Select.exists_enumerates_predicates (block : Select) :
    ∃ entries, Enumerates (fun a b => a.predicateKey < b.predicateKey) entries block.predicates
      (fun way p => p.owner = .select block ∧ p.StandsAt way) := by
  obtain ⟨ons, hons⟩ := block.exists_enumerates_on
  have hfilter : (block.filter.toList.map (Predicate.mk .filter · (.select block))).length ≤ 1 := by
    cases block.filter <;> simp
  have hhaving : (block.having.toList.map (Predicate.mk .having · (.select block))).length ≤ 1 := by
    cases block.having <;> simp
  -- The `ON` predicates are listed between the other two, and so are their ways ordered.
  have hrest := (hons.map (Predicate.mk .joinOn · (.select block))).append
    (Enumerates.atPlace [.having] hhaving) (by
      rintro way _ _ _ ⟨e, ⟨-, hway⟩, -⟩ ⟨rfl, -⟩
      exact hway.listed_between.2)
  refine ⟨_, ((Enumerates.atPlace [.filter] hfilter).append hrest ?_).congr rfl fun way p => ?_⟩
  · rintro _ _ way _ ⟨rfl, -⟩ (⟨e, ⟨-, hway⟩, -⟩ | ⟨rfl, -⟩)
    · exact hway.listed_between.1
    · exact List.Lex.rel (List.Lex.rel Nat.zero_lt_two)
  · simp only [List.mem_map, Option.mem_toList]
    constructor
    · rintro (⟨rfl, e, he, rfl⟩ | ⟨e, ⟨hreach, hway⟩, rfl⟩ | ⟨rfl, e, he, rfl⟩)
      · exact ⟨rfl, Reaches.single_iff.mpr (Select.filter_clause_iff.mpr he), rfl, by simp⟩
      · exact ⟨rfl, hreach, hway, fun _ => ⟨block, rfl⟩⟩
      · exact ⟨rfl, Reaches.single_iff.mpr (Select.having_clause_iff.mpr he), rfl,
          fun _ => ⟨block, rfl⟩⟩
    · obtain ⟨site, e, owner⟩ := p
      rintro ⟨rfl, hreach, hway, -⟩
      cases site with
      | filter =>
          cases hway
          exact Or.inl ⟨rfl, e, Select.filter_clause_iff.mp (Reaches.single_iff.mp hreach), rfl⟩
      | having =>
          cases hway
          exact Or.inr
            (Or.inr ⟨rfl, e, Select.having_clause_iff.mp (Reaches.single_iff.mp hreach), rfl⟩)
      | joinOn => exact Or.inr (Or.inl ⟨e, ⟨hreach, hway⟩, rfl⟩)

def Node.predicates : Node → List Predicate
  | .query _ => []
  | .select block => block.predicates

/-- The predicates that belong to a node of the walk are listed with their ways. -/
theorem Node.exists_enumerates_predicates (node : Node) :
    ∃ entries, Enumerates (fun a b => a.predicateKey < b.predicateKey) entries node.predicates
      (fun way p => p.owner.part = node.part ∧ p.StandsAt way) := by
  cases node with
  | query q =>
      refine ⟨[], rfl, ?_, List.Pairwise.nil⟩
      rintro way ⟨site, e, owner⟩
      cases owner <;> simp [Owner.part, Node.part]
  | select block =>
      obtain ⟨entries, hentries⟩ := block.exists_enumerates_predicates
      refine ⟨entries, hentries.congr rfl ?_⟩
      rintro way ⟨site, e, owner⟩
      cases owner <;> simp [Owner.part, Node.part]

/-- Only blocks among the nodes have predicates. -/
theorem Statement.flatMap_nodes_predicates (s : Statement) :
    s.nodes.flatMap Node.predicates = s.selects.flatMap Select.predicates := by
  rw [Statement.selects]
  induction s.nodes with
  | nil => rfl
  | cons node rest ih => cases node <;> simp [Node.predicates, ih]

theorem Update.filter_clause_iff {change : Update} {e : Expr} :
    (.filter, .expr e) ∈ (Part.statement (.update change)).clauses ↔ change.filter = some e := by
  simp [Part.clauses, Statement.clauses, mem_fromClauses, mem_eachClause, mem_optionClause]

theorem Delete.filter_clause_iff {change : Delete} {e : Expr} :
    (.filter, .expr e) ∈ (Part.statement (.delete change)).clauses ↔ change.filter = some e := by
  simp [Part.clauses, Statement.clauses, mem_fromClauses, mem_optionClause]

/-- The predicate that an `UPDATE` or `DELETE` carries itself stands in its `WHERE`. -/
theorem Statement.standsAt_iff_mem_ownPredicates {s : Statement} {p : Predicate} {way : Place} :
    p.owner.part = .statement s ∧ p.StandsAt way ↔ way = [.filter] ∧ p ∈ s.ownPredicates := by
  constructor
  · obtain ⟨site, e, owner⟩ := p
    rintro ⟨howner, hreach, hway, hblock⟩
    -- Only a block has predicates at the other sites, and a statement is no block.
    have hsite : site = .filter := by
      by_contra hne
      obtain ⟨block, rfl⟩ := hblock hne
      cases howner
    subst hsite
    cases hway
    have hclause := Reaches.single_iff.mp hreach
    cases owner with
    | select block => cases howner
    | update change =>
        cases howner
        exact ⟨rfl, List.mem_map.mpr
          ⟨e, Option.mem_toList.mpr (Update.filter_clause_iff.mp hclause), rfl⟩⟩
    | delete change =>
        cases howner
        exact ⟨rfl, List.mem_map.mpr
          ⟨e, Option.mem_toList.mpr (Delete.filter_clause_iff.mp hclause), rfl⟩⟩
  · rintro ⟨rfl, hown⟩
    cases s with
    | update change =>
        obtain ⟨e, he, rfl⟩ := List.mem_map.mp hown
        have hclause := Update.filter_clause_iff.mpr (Option.mem_toList.mp he)
        exact ⟨rfl, Reaches.single_iff.mpr hclause, rfl, by simp⟩
    | delete change =>
        obtain ⟨e, he, rfl⟩ := List.mem_map.mp hown
        have hclause := Delete.filter_clause_iff.mpr (Option.mem_toList.mp he)
        exact ⟨rfl, Reaches.single_iff.mpr hclause, rfl, by simp⟩
    | _ => cases hown

/-! ## The sites of a statement -/

/-- The predicate stands at the end of the way from its owner, and the owner at a place of the
statement outside the clauses that order and page rows. -/
structure PredicateAt (s : Statement) (place way : Place) (p : Predicate) : Prop where
  owner : Reaches (.statement s) place p.owner.part
  outsidePaging : place.OutsidePaging
  standsAt : p.StandsAt way

/-- The sites give each listed predicate the place of its owner and the way from there. They are
exactly the sites of the statement, owner by owner in visiting order and in the order of the list
for each owner. -/
structure ListsSites (s : Statement) (sites : List (Place × Place × Predicate)) : Prop where
  predicates_eq : sites.map (·.2.2) = s.predicates
  mem_iff : ∀ place way p, (place, way, p) ∈ sites ↔ PredicateAt s place way p
  inOrder : sites.Pairwise fun a b => a.1.Before b.1 ∨ a.1 = b.1 ∧ a.2.1.ListedBefore b.2.1

/-- A place is the root or ends with a clause of the part before. -/
theorem Reaches.last_clause {p d : Part} {place : Place} (hreach : Reaches p place d) :
    (place = [] ∧ p = d) ∨
      ∃ lead slot c, place = lead ++ [slot] ∧ (slot, d) ∈ Part.clauses c := by
  induction hreach with
  | here => exact Or.inl ⟨rfl, rfl⟩
  | @inside p c d slot place hclause _ ih =>
      rcases ih with ⟨rfl, rfl⟩ | ⟨lead, last, c, rfl, hlast⟩
      · exact Or.inr ⟨[], slot, p, rfl, hclause⟩
      · exact Or.inr ⟨slot :: lead, last, c, rfl, hlast⟩

/-- No clause leads to a statement, and only the body of a query leads to a SELECT block. -/
theorem clause_to_owner {p c : Part} {slot : Slot} (hclause : (slot, c) ∈ p.clauses) :
    (∀ s, c ≠ .statement s) ∧ ∀ block, c = .select block → slot = .block := by
  cases p with
  | statement s =>
      cases s <;>
        grind [Part.clauses, Statement.clauses, mem_fromClauses, mem_eachClause, mem_optionClause]
  | body b => cases b <;> grind [Part.clauses, mem_eachClause]
  | relation r => cases r <;> grind [Part.clauses, mem_fromClauses]
  | expr e =>
      rcases Expr.clause_cases hclause with ⟨-, operand, rfl⟩ | ⟨-, q, rfl⟩ <;> simp
  | query q => grind [Part.clauses, mem_eachClause, mem_optionClause]
  | select block => grind [mem_selectClauses, mem_fromClauses]

/-- The owner of a predicate is the statement itself or a SELECT block, at the end of a way into a
body. -/
theorem Reaches.owner_cases {s : Statement} {place : Place} {owner : Owner}
    (hreach : Reaches (.statement s) place owner.part) :
    (place = [] ∧ owner.part = .statement s) ∨
      ∃ lead block, place = lead ++ [.block] ∧ owner.part = Node.part (.select block) := by
  rcases hreach.last_clause with ⟨rfl, heq⟩ | ⟨lead, slot, c, rfl, hclause⟩
  · exact Or.inl ⟨rfl, heq.symm⟩
  · obtain ⟨hstatement, hselect⟩ := clause_to_owner hclause
    cases owner with
    | select block =>
        cases hselect block rfl
        exact Or.inr ⟨lead, block, rfl, rfl⟩
    | update change => exact absurd rfl (hstatement _)
    | delete change => exact absurd rfl (hstatement _)

/-- The site of the predicate that an `UPDATE` or `DELETE` carries itself. -/
def Statement.ownSites (s : Statement) : List (Place × Place × Predicate) :=
  s.ownPredicates.map fun p => ([], [.filter], p)

/-- The predicate of the statement itself belongs to the statement. -/
theorem Statement.mem_ownSites {s : Statement} {place way : Place} {p : Predicate} :
    (place, way, p) ∈ s.ownSites ↔ place = [] ∧ p.owner.part = .statement s ∧ p.StandsAt way := by
  rw [Statement.standsAt_iff_mem_ownPredicates]
  simp only [Statement.ownSites, List.mem_map, Prod.mk.injEq]
  constructor
  · rintro ⟨_, hown, rfl, rfl, rfl⟩
    exact ⟨rfl, rfl, hown⟩
  · rintro ⟨rfl, rfl, hown⟩
    exact ⟨p, hown, rfl, rfl, rfl⟩

theorem Statement.ownSites_pairwise (s : Statement)
    (R : Place × Place × Predicate → Place × Place × Predicate → Prop) : s.ownSites.Pairwise R := by
  -- There is at most one such site.
  cases s with
  | update change =>
      cases h : change.filter <;> simp [Statement.ownSites, Statement.ownPredicates, h]
  | delete change =>
      cases h : change.filter <;> simp [Statement.ownSites, Statement.ownPredicates, h]
  | _ => exact List.Pairwise.nil

/-- The sites of a visited node, from the ways to its predicates. -/
def visitSites (ways : Node → List (Place × Predicate)) (visit : Place × Node) :
    List (Place × Place × Predicate) :=
  (ways visit.2).map fun entry => (visit.1, entry.1, entry.2)

section Visits

variable {s : Statement} {visits : List (Place × Node)} {ways : Node → List (Place × Predicate)}
  (hvisits : Records visits s.nodes (Walked (.statement s)))
  (hways : ∀ node, Enumerates (fun a b => a.predicateKey < b.predicateKey) (ways node)
    node.predicates
    (fun way p => p.owner.part = node.part ∧ p.StandsAt way))

include hvisits hways

theorem mem_visitSites {place way : Place} {p : Predicate} :
    (place, way, p) ∈ visits.flatMap (visitSites ways) ↔
      ∃ node, Walked (.statement s) place node ∧ p.owner.part = node.part ∧ p.StandsAt way := by
  simp [visitSites, (hways _).mem_iff, hvisits.mem_iff]

theorem predicates_visitSites :
    (visits.flatMap (visitSites ways)).map (·.2.2) = s.selects.flatMap Select.predicates := by
  have hnode (visit : Place × Node) : (visitSites ways visit).map (·.2.2) = visit.2.predicates := by
    rw [← (hways visit.2).listed_eq, visitSites, List.map_map]
    rfl
  rw [← s.flatMap_nodes_predicates, ← hvisits.nodes_eq, List.map_flatMap, List.flatMap_map]
  simp only [hnode]

/-- The sites come in the order of the walk, and within a node in the order of their ways. -/
theorem visitSites_inOrder :
    (visits.flatMap (visitSites ways)).Pairwise fun a b =>
      a.1.Before b.1 ∨ a.1 = b.1 ∧ a.2.1.ListedBefore b.2.1 := by
  refine List.pairwise_flatMap.mpr ⟨?_, hvisits.inOrder.imp ?_⟩
  · -- The sites of one node share its place and differ in their ways.
    intro visit hvisit
    exact List.pairwise_map.mpr ((hways visit.2).inOrder.imp fun hbefore => Or.inr ⟨rfl, hbefore⟩)
  · intro first second hbefore a ha b hb
    obtain ⟨_, -, rfl⟩ := List.mem_map.mp ha
    obtain ⟨_, -, rfl⟩ := List.mem_map.mp hb
    exact Or.inl hbefore

end Visits

/-- Listing the predicates of a statement meets each of its sites once, in order. -/
theorem Statement.exists_listsSites (s : Statement) : ∃ sites, ListsSites s sites := by
  obtain ⟨visits, hvisits⟩ := exists_records (.statement s)
  choose ways hways using Node.exists_enumerates_predicates
  refine ⟨s.ownSites ++ visits.flatMap (visitSites ways), ?_, ?_, ?_⟩
  · have hown : s.ownSites.map (·.2.2) = s.ownPredicates := by
      simp [Statement.ownSites, Function.comp_def]
    rw [List.map_append, hown, predicates_visitSites hvisits hways, Statement.predicates]
  · intro place way p
    rw [List.mem_append, Statement.mem_ownSites, mem_visitSites hvisits hways]
    constructor
    · rintro (⟨rfl, howner, hstands⟩ | ⟨node, ⟨hreach, houtside⟩, howner, hstands⟩)
      · exact ⟨howner ▸ .here _, by simp [Place.OutsidePaging], hstands⟩
      · exact ⟨howner ▸ hreach, houtside, hstands⟩
    · rintro ⟨hreach, houtside, hstands⟩
      rcases hreach.owner_cases with ⟨rfl, howner⟩ | ⟨lead, block, rfl, howner⟩
      · exact Or.inl ⟨rfl, howner, hstands⟩
      · exact Or.inr ⟨.select block, ⟨howner ▸ hreach, houtside⟩, howner, hstands⟩
  · refine List.pairwise_append.mpr ⟨s.ownSites_pairwise _, visitSites_inOrder hvisits hways, ?_⟩
    -- The statement has the empty place, and every node a place below it.
    rintro ⟨_, _, p⟩ hown ⟨place, way, p'⟩ hsite
    obtain ⟨rfl, -, -⟩ := Statement.mem_ownSites.mp hown
    obtain ⟨node, ⟨hreach, -⟩, -, -⟩ := (mem_visitSites hvisits hways).mp hsite
    cases place with
    | nil => cases node <;> cases hreach
    | cons slot rest => exact Or.inl List.Lex.nil

/-! ## The nodes of the predicates -/

theorem rdropWhile_append_of_forall {α : Type} {q : α → Bool} (first : List α) {rest : List α}
    (hrest : ∀ x ∈ rest, q x = true) : (first ++ rest).rdropWhile q = first.rdropWhile q := by
  induction rest using List.reverseRecOn with
  | nil => rw [List.append_nil]
  | append_singleton rest x ih =>
      rw [List.forall_mem_append] at hrest
      rw [← List.append_assoc, List.rdropWhile_concat_pos q _ x (hrest.2 x List.mem_cons_self),
        ih hrest.1]

/-- A way to a predicate stays clear of bodies and does not end at an operand. -/
theorem Site.IsWay.shape {site : Site} {way : Place} (hway : site.IsWay way) :
    (∀ slot ∈ way, slot ≠ .block) ∧ ∃ lead last, way = lead ++ [last] ∧ last.isOperand = false := by
  cases site with
  | filter =>
      cases hway
      exact ⟨by simp, [], .filter, rfl, rfl⟩
  | having =>
      cases hway
      exact ⟨by simp, [], .having, rfl, rfl⟩
  | joinOn =>
      obtain ⟨sides, i, j, rfl, hsides⟩ := hway
      refine ⟨List.forall_mem_append.mpr ⟨?_, by simp⟩, sides, .on i j, rfl, rfl⟩
      rintro slot hslot rfl
      cases hsides _ hslot

/-- The way to a predicate and the operands below it lead through no body, and the way ends above
the operands. -/
theorem Site.IsWay.rdropWhile_eq {site : Site} {way rest : Place} (hway : site.IsWay way)
    (hrest : rest.ThroughOperands) (place : Place) :
    (place ++ way ++ rest).rdropWhile (· ≠ .block) = place.rdropWhile (· ≠ .block) ∧
      (place ++ way ++ rest).rdropWhile Slot.isOperand = place ++ way := by
  obtain ⟨hbody, lead, last, rfl, hlast⟩ := hway.shape
  constructor
  · rw [List.append_assoc, rdropWhile_append_of_forall]
    intro slot hslot
    rcases List.mem_append.mp hslot with hslot | hslot
    · simpa using hbody slot hslot
    · have hoperand := hrest slot hslot
      rw [decide_eq_true_eq]
      rintro rfl
      cases hoperand
  · rw [rdropWhile_append_of_forall _ hrest, ← List.append_assoc]
    exact List.rdropWhile_concat_neg _ _ _ (by simp [hlast])

/-- The place of a node of a predicate tells where the owner and the predicate stand: the owner at
the last body above, the predicate above the operands. -/
theorem PredicateAt.rdropWhile_eq {s : Statement} {place way rest : Place} {p : Predicate}
    (hsite : PredicateAt s place way p) (hrest : rest.ThroughOperands) :
    (place ++ way ++ rest).rdropWhile (· ≠ .block) = place ∧
      (place ++ way ++ rest).rdropWhile Slot.isOperand = place ++ way := by
  obtain ⟨hblock, hoperands⟩ := hsite.standsAt.isWay.rdropWhile_eq hrest place
  refine ⟨hblock.trans ?_, hoperands⟩
  rcases hsite.owner.owner_cases with ⟨rfl, -⟩ | ⟨above, block, rfl, -⟩
  · rfl
  · exact List.rdropWhile_concat_neg _ _ _ (by simp)

/-- A place inside a predicate tells which predicate it is in: the slots of operands are dropped
from the end. -/
theorem PredicateAt.eq_of_append_eq {s : Statement} {place way rest place' way' rest' : Place}
    {p p' : Predicate} (hsite : PredicateAt s place way p) (hsite' : PredicateAt s place' way' p')
    (hrest : rest.ThroughOperands) (hrest' : rest'.ThroughOperands)
    (heq : place ++ way ++ rest = place' ++ way' ++ rest') :
    place = place' ∧ way = way' ∧ rest = rest' := by
  obtain ⟨hplace, hway⟩ := hsite.rdropWhile_eq hrest
  obtain ⟨hplace', hway'⟩ := hsite'.rdropWhile_eq hrest'
  rw [heq] at hplace hway
  obtain rfl : place = place' := hplace.symm.trans hplace'
  obtain rfl : way = way' := List.append_cancel_left (hway.symm.trans hway')
  exact ⟨rfl, rfl, List.append_cancel_left heq⟩

theorem Place.listedBefore_irrefl (way : Place) : ¬ way.ListedBefore way :=
  List.lex_irrefl (fun slot => List.lex_irrefl Nat.lt_irrefl slot.predicateKey) way

/-- No place below one site is a place below another. -/
theorem ListsSites.pairwise_disjoint {s : Statement} {sites : List (Place × Place × Predicate)}
    (hsites : ListsSites s sites) :
    sites.Pairwise fun a b => ∀ rest rest' : Place, rest.ThroughOperands → rest'.ThroughOperands →
      a.1 ++ a.2.1 ++ rest ≠ b.1 ++ b.2.1 ++ rest' := by
  refine hsites.inOrder.imp_of_mem ?_
  intro a b ha hb hbefore rest rest' hrest hrest' heq
  have hfirst := (hsites.mem_iff _ _ _).mp ha
  have hsecond := (hsites.mem_iff _ _ _).mp hb
  obtain ⟨hplace, hway, -⟩ := hfirst.eq_of_append_eq hsecond hrest hrest' heq
  rcases hbefore with hbefore | ⟨-, hbefore⟩
  · exact Place.before_irrefl _ (hplace ▸ hbefore)
  · exact Place.listedBefore_irrefl _ (hway ▸ hbefore)

/-- No predicate is listed twice. -/
theorem ListsSites.places_nodup {s : Statement} {sites : List (Place × Place × Predicate)}
    (hsites : ListsSites s sites) : (sites.map fun site => site.1 ++ site.2.1).Nodup := by
  refine List.pairwise_map.mpr (hsites.pairwise_disjoint.imp ?_)
  intro a b hdisjoint heq
  refine hdisjoint [] [] Place.throughOperands_nil Place.throughOperands_nil ?_
  rw [heq]

/-- The nodes of the predicate at a site with their places in the statement, from the ways to the
nodes. -/
def siteNodes (ways : Expr → List (Place × Expr)) (site : Place × Place × Predicate) :
    List (Place × Predicate × Expr) :=
  (ways site.2.2.expr).map fun entry => (site.1 ++ site.2.1 ++ entry.1, site.2.2, entry.2)

/-- Different sites have no node in common, nor does one site have a node twice. -/
theorem ListsSites.siteNodes_nodup {s : Statement} {sites : List (Place × Place × Predicate)}
    (hsites : ListsSites s sites) {ways : Expr → List (Place × Expr)}
    (hways : ∀ e, Enumerates (fun a b => a.key < b.key) (ways e) e.preorder e.HasNodeAt) :
    ((sites.flatMap (siteNodes ways)).map Prod.fst).Nodup := by
  refine List.pairwise_map.mpr (List.pairwise_flatMap.mpr ⟨?_, ?_⟩)
  · intro site hsite
    have hnodup := (hways site.2.2.expr).nodup fun slot => List.lex_irrefl Nat.lt_irrefl slot.key
    refine List.pairwise_map.mpr ((List.pairwise_map.mp hnodup).imp ?_)
    intro a b hne heq
    exact hne (List.append_cancel_left heq)
  · refine hsites.pairwise_disjoint.imp ?_
    intro site site' hdisjoint a ha b hb
    obtain ⟨⟨rest, x⟩, hx, rfl⟩ := List.mem_map.mp ha
    obtain ⟨⟨rest', y⟩, hy, rfl⟩ := List.mem_map.mp hb
    have hfirst := ((hways _).mem_iff _ _).mp hx
    have hsecond := ((hways _).mem_iff _ _).mp hy
    exact hdisjoint rest rest' hfirst.2 hsecond.2

/-- At the place stands a node of the predicate, reached from it through operands. -/
def PredicateNodeAt (s : Statement) (place : Place) (p : Predicate) (e : Expr) : Prop :=
  ∃ owner way rest, place = owner ++ way ++ rest ∧ PredicateAt s owner way p ∧
    p.expr.HasNodeAt rest e

/-- The nodes of the listed predicates, each with its place and its predicate. -/
structure ListsNodes (s : Statement) (nodes : List (Place × Predicate × Expr)) : Prop where
  nodes_eq : nodes.map Prod.snd = s.predicates.flatMap fun p => p.expr.preorder.map (p, ·)
  mem_iff : ∀ place p e, (place, p, e) ∈ nodes ↔ PredicateNodeAt s place p e
  nodup : (nodes.map Prod.fst).Nodup

/-- The nodes of all predicates of a statement can be listed with their places. -/
theorem Statement.exists_listsNodes (s : Statement) : ∃ nodes, ListsNodes s nodes := by
  obtain ⟨sites, hsites⟩ := s.exists_listsSites
  choose ways hways using Expr.exists_enumerates_preorder
  have hsite (site : Place × Place × Predicate) :
      (siteNodes ways site).map Prod.snd = site.2.2.expr.preorder.map (site.2.2, ·) := by
    rw [← (hways site.2.2.expr).listed_eq, siteNodes, List.map_map, List.map_map]
    rfl
  refine ⟨sites.flatMap (siteNodes ways), ?_, ?_, hsites.siteNodes_nodup hways⟩
  · rw [List.map_flatMap, ← hsites.predicates_eq, List.flatMap_map]
    simp only [hsite]
  · intro place p e
    simp only [List.mem_flatMap, siteNodes, List.mem_map, Prod.exists, Prod.mk.injEq,
      hsites.mem_iff, (hways _).mem_iff]
    constructor
    · rintro ⟨owner, way, _, hp, rest, _, hnode, rfl, rfl, rfl⟩
      exact ⟨owner, way, rest, rfl, hp, hnode⟩
    · rintro ⟨owner, way, rest, rfl, hp, hnode⟩
      exact ⟨owner, way, p, hp, rest, e, hnode, rfl, rfl, rfl⟩

/-- The list of predicates names each predicate site of a statement once and nothing else: the
`WHERE` of an `UPDATE` or `DELETE`, then block by block in visiting order the `WHERE`, the `ON`
predicates through any depth of parenthesised joins and the `HAVING`, each with the block it belongs
to. No two sites stand at one place, and every node of a predicate is looked at for that predicate
only. -/
theorem Statement.predicates_enumerate_sites (s : Statement) :
    ∃ sites : List (Place × Place × Predicate),
      sites.map (·.2.2) = s.predicates ∧
      (∀ place way p, (place, way, p) ∈ sites ↔ PredicateAt s place way p) ∧
      (sites.Pairwise fun a b => a.1.Before b.1 ∨ a.1 = b.1 ∧ a.2.1.ListedBefore b.2.1) ∧
      (sites.map fun site => site.1 ++ site.2.1).Nodup ∧
      ∃ nodes : List (Place × Predicate × Expr),
        nodes.map Prod.snd = s.predicates.flatMap (fun p => p.expr.preorder.map (p, ·)) ∧
        (∀ place p e, (place, p, e) ∈ nodes ↔
          ∃ owner way rest, place = owner ++ way ++ rest ∧ PredicateAt s owner way p ∧
            p.expr.HasNodeAt rest e) ∧
        (nodes.map Prod.fst).Nodup := by
  obtain ⟨sites, hsites⟩ := s.exists_listsSites
  obtain ⟨nodes, hnodes⟩ := s.exists_listsNodes
  exact ⟨sites, hsites.predicates_eq, hsites.mem_iff, hsites.inOrder, hsites.places_nodup,
    nodes, hnodes.nodes_eq, hnodes.mem_iff, hnodes.nodup⟩

end SqlAudit
