import SqlAudit.Tree.Name

/-! # Dotted names

A name is written with dots between its parts, and every dot of a text separates two parts. So a
text that is read as a name is written again as it was. A name that is written is read again as it
was exactly if it has a part and no part has a dot in it.
-/

namespace SqlAudit

namespace Text

theorem splitChars_eq (separator : Char) (cs : List Char) :
    splitChars separator cs = cs.splitOn separator := by
  induction cs with
  | nil => rfl
  | cons c cs ih =>
      rw [splitChars, ih, List.splitOn_cons_eq_if_modifyHead]
      by_cases hc : c = separator
      · simp [hc]
      · cases hpieces : cs.splitOn separator with
        | nil => exact absurd hpieces (by simp)
        | cons piece rest => simp [hc]

theorem toList_joinWith (separator : String) (texts : List String) :
    (joinWith separator texts).toList = separator.toList.intercalate (texts.map String.toList) := by
  induction texts with
  | nil => rfl
  | cons s rest ih =>
      cases rest with
      | nil => simp [joinWith]
      | cons t rest =>
          have hjoin : joinWith separator (s :: t :: rest) =
              s ++ separator ++ joinWith separator (t :: rest) := rfl
          rw [hjoin, String.toList_append, String.toList_append, ih]
          exact List.intercalate_cons_cons.symm

/-- Splitting loses nothing. -/
theorem joinWith_splitOn (separator : Char) (s : String) :
    joinWith separator.toString (splitOn separator s) = s := by
  have hpieces : (splitOn separator s).map String.toList = s.toList.splitOn separator := by
    simp [splitOn, splitChars_eq]
  rw [← String.toList_inj, toList_joinWith, hpieces, Char.toString, String.toList_singleton,
    List.intercalate_splitOn]

/-- Pieces without the separator are found again, if there is at least one. -/
theorem splitOn_joinWith {separator : Char} {texts : List String} (hne : texts ≠ [])
    (htexts : ∀ t ∈ texts, separator ∉ t.toList) :
    splitOn separator (joinWith separator.toString texts) = texts := by
  have hpieces : (texts.map String.toList).map String.ofList = texts := by simp
  rw [splitOn, splitChars_eq, toList_joinWith, Char.toString, String.toList_singleton,
    List.splitOn_intercalate separator (by simpa using htexts) (by simpa using hne), hpieces]

theorem not_mem_of_mem_splitChars {separator : Char} {cs piece : List Char}
    (hpiece : piece ∈ splitChars separator cs) : separator ∉ piece := by
  induction cs generalizing piece with
  | nil =>
      rw [List.mem_singleton.mp hpiece]
      exact List.not_mem_nil
  | cons c cs ih =>
      unfold splitChars at hpiece
      split at hpiece
      next =>
        rcases List.mem_cons.mp hpiece with rfl | hrest
        · exact List.not_mem_nil
        · exact ih hrest
      next hc =>
        -- The character joins the first piece of the rest.
        have hfirst {first : List Char} (hnot : separator ∉ first) : separator ∉ c :: first := by
          simp [Ne.symm hc, hnot]
        split at hpiece
        next => exact List.mem_singleton.mp hpiece ▸ hfirst List.not_mem_nil
        next first rest hpieces =>
          rcases List.mem_cons.mp hpiece with rfl | hrest
          · exact hfirst (ih (hpieces ▸ List.mem_cons_self))
          · exact ih (hpieces ▸ List.mem_cons_of_mem _ hrest)

/-- No piece holds the separator. -/
theorem not_mem_of_mem_splitOn {separator : Char} {s piece : String}
    (hpiece : piece ∈ splitOn separator s) :
    separator ∉ piece.toList := by
  obtain ⟨cs, hcs, rfl⟩ := List.mem_map.mp hpiece
  rw [String.toList_ofList]
  exact not_mem_of_mem_splitChars hcs

theorem splitOn_ne_nil (separator : Char) (s : String) : splitOn separator s ≠ [] := by
  simp [splitOn, splitChars_eq]

end Text

namespace ObjectName

/-- Every text is the text of the name that is read from it. -/
theorem toText_ofText (s : String) : (ofText s).toText = s :=
  Text.joinWith_splitOn '.' s

/-- A name is read back if it has parts and no part has a dot. -/
theorem ofText_toText_iff {n : ObjectName} :
    ofText n.toText = n ↔ n.parts ≠ [] ∧ ∀ part ∈ n.parts, '.' ∉ part.toList := by
  constructor
  · intro hread
    rw [← hread]
    exact ⟨Text.splitOn_ne_nil _ _, fun part => Text.not_mem_of_mem_splitOn⟩
  · intro ⟨hne, hparts⟩
    rw [ofText, toText]
    exact congrArg mk (Text.splitOn_joinWith hne hparts)

/-- The qualifier is the part before the last. -/
theorem qualifier_eq (n : ObjectName) :
    n.qualifier = if 2 ≤ n.parts.length then n.parts[n.parts.length - 2]? else none := by
  rw [qualifier, List.getLast?_eq_getElem?, List.getElem?_dropLast, List.length_dropLast,
    Nat.sub_sub]
  by_cases htwo : 2 ≤ n.parts.length
  · rw [if_pos htwo, if_pos (by omega)]
  · rw [if_neg htwo, if_neg (by omega)]

/-- Reading and writing dotted names undo one another. -/
theorem ofText_toText_round_trip :
    (∀ s, (ofText s).toText = s) ∧
    (∀ n : ObjectName, ofText n.toText = n ↔ n.parts ≠ [] ∧ ∀ part ∈ n.parts, '.' ∉ part.toList) ∧
    ∀ (parts : List String) (hne : parts ≠ []), (∀ part ∈ parts, '.' ∉ part.toList) →
      (ofText (toText ⟨parts⟩)).parts = parts ∧
      (ofText (toText ⟨parts⟩)).base = parts.getLast hne ∧
      (ofText (toText ⟨parts⟩)).qualifier =
        if 2 ≤ parts.length then parts[parts.length - 2]? else none := by
  refine ⟨toText_ofText, fun n => ofText_toText_iff, fun parts hne hparts => ?_⟩
  have hread : ofText (toText ⟨parts⟩) = ⟨parts⟩ := ofText_toText_iff.mpr ⟨hne, hparts⟩
  rw [hread]
  refine ⟨rfl, ?_, qualifier_eq _⟩
  rw [base, List.getLast?_eq_some_getLast hne, Option.getD_some]

/-- An empty part is a part. -/
theorem ofText_toText_round_trip_shop :
    (∀ part ∈ ["shop", "", "orders"], '.' ∉ part.toList) ∧
    (ofText (toText ⟨["shop", "", "orders"]⟩)).parts = ["shop", "", "orders"] ∧
    (ofText (toText ⟨["shop", "", "orders"]⟩)).base = "orders" ∧
    (ofText (toText ⟨["shop", "", "orders"]⟩)).qualifier = some "" := by
  have hparts : ∀ part ∈ ["shop", "", "orders"], '.' ∉ part.toList := by
    simp
  exact ⟨hparts, ofText_toText_round_trip.2.2 ["shop", "", "orders"] (by simp) hparts⟩

end ObjectName

end SqlAudit
