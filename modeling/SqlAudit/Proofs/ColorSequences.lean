import SqlAudit.Proofs.SurfacedPositions
import SqlAudit.Render.Format
import SqlAudit.Render.RuleTable

/-! # Colours taken out again

A colour sequence is an escape character, a bracket and everything up to the next `m`. Deleting
these sequences from a coloured report leaves the report without colours, as long as no text in it
has an escape character of its own. Deletion goes through a text from left to right, so what it
leaves of a text may depend on what follows; `Uncolors` says that it does not, and is what the parts
of a report hand on to the whole.
-/

namespace SqlAudit

namespace Text

/-- The character that opens a colour sequence. -/
def escape : Char := '\x1b'

/-- What follows the colour sequence at the front. -/
def afterColor? (cs : List Char) : Option (List Char) :=
  (dropStart [escape, '['] cs).bind (afterFirst ['m'])

/-- A colour sequence is the escape, a bracket, and everything up to the first `m`. -/
theorem afterColor?_eq_some_iff {cs rest : List Char} :
    afterColor? cs = some rest ↔ ∃ codes, cs = [escape, '['] ++ (codes ++ 'm' :: rest) ∧
      'm' ∉ codes := by
  unfold afterColor?
  simp only [Option.bind_eq_some_iff, dropStart_eq_some_iff,
    afterFirst_eq_some_iff (List.cons_ne_nil 'm' []), List.dropLast_singleton, List.append_nil,
    List.singleton_infix_iff]
  simp

theorem length_afterColor? {cs rest : List Char} (hrest : afterColor? cs = some rest) :
    rest.length < cs.length := by
  obtain ⟨codes, rfl, -⟩ := afterColor?_eq_some_iff.mp hrest
  simp
  omega

/-- The characters without their colour sequences. -/
def deleteColors : List Char → List Char
  | [] => []
  | c :: cs =>
    match _hcolor : afterColor? (c :: cs) with
    | some rest => deleteColors rest
    | none => c :: deleteColors cs
termination_by cs => cs.length
decreasing_by
  · exact length_afterColor? _hcolor
  · simp

theorem deleteColors_of_afterColor? {cs rest : List Char} (hrest : afterColor? cs = some rest) :
    deleteColors cs = deleteColors rest := by
  cases cs with
  | nil => cases hrest
  | cons c cs =>
      rw [deleteColors]
      split
      next found hfound =>
        rw [hrest] at hfound
        cases hfound
        rfl
      next hnone =>
        rw [hrest] at hnone
        cases hnone

/-- A whole sequence is deleted. -/
theorem deleteColors_sequence {codes : List Char} (hcodes : 'm' ∉ codes) (rest : List Char) :
    deleteColors ([escape, '['] ++ (codes ++ 'm' :: rest)) = deleteColors rest := by
  apply deleteColors_of_afterColor?
  exact afterColor?_eq_some_iff.mpr ⟨codes, rfl, hcodes⟩

theorem deleteColors_cons {c : Char} (hc : c ≠ escape) (cs : List Char) :
    deleteColors (c :: cs) = c :: deleteColors cs := by
  have hnone : afterColor? (c :: cs) = none := by
    apply Option.eq_none_iff_forall_ne_some.mpr
    intro rest hrest
    obtain ⟨codes, heq, -⟩ := afterColor?_eq_some_iff.mp hrest
    exact hc (List.cons.inj heq).1
  rw [deleteColors]
  split
  next hfound =>
    rw [hnone] at hfound
    cases hfound
  next => rfl

/-- Nothing is deleted from characters without an escape. -/
theorem deleteColors_append {cs : List Char} (hcs : escape ∉ cs) (rest : List Char) :
    deleteColors (cs ++ rest) = cs ++ deleteColors rest := by
  induction cs with
  | nil => rfl
  | cons c cs ih =>
      simp only [List.mem_cons, not_or] at hcs
      rw [List.cons_append, deleteColors_cons (Ne.symm hcs.1), ih hcs.2, List.cons_append]

/-- The text without its colour sequences. -/
def uncolored (s : String) : String :=
  String.ofList (deleteColors s.toList)

/-- The text has no escape character. -/
def IsPlain (s : String) : Prop :=
  escape ∉ s.toList

instance (s : String) : Decidable (IsPlain s) :=
  inferInstanceAs (Decidable (escape ∉ s.toList))

@[simp] theorem isPlain_append {s t : String} : IsPlain (s ++ t) ↔ IsPlain s ∧ IsPlain t := by
  simp [IsPlain]

@[simp] theorem isPlain_toString (n : Nat) : IsPlain (toString n) := by
  intro hmem
  have hdigit : escape.isDigit = true := (isNumeral_toString n).digits escape hmem
  exact absurd hdigit (by decide)

theorem isPlain_joinWith {separator : String} (hseparator : IsPlain separator) {texts : List String}
    (htexts : ∀ t ∈ texts, IsPlain t) : IsPlain (joinWith separator texts) := by
  fun_induction joinWith separator texts with
  | case1 => decide
  | case2 s => exact htexts s (by simp)
  | case3 s rest _ ih =>
      simp only [List.forall_mem_cons] at htexts
      simp [htexts.1, hseparator, ih htexts.2]

theorem joinWith_nothing_cons (s : String) (rest : List String) :
    joinWith "" (s :: rest) = s ++ joinWith "" rest := by
  cases rest <;> simp [joinWith]

/-- Deletion leaves the plain text of the coloured one, whatever follows it. -/
def Uncolors (colored plain : String) : Prop :=
  ∀ rest, deleteColors (colored.toList ++ rest) = plain.toList ++ deleteColors rest

/-- A plain text is its own uncoloured form. -/
theorem IsPlain.uncolors {s : String} (hs : IsPlain s) : Uncolors s s :=
  deleteColors_append hs

namespace Uncolors

/-- Uncolouring goes piece by piece, since no piece ends inside a sequence. -/
theorem append {colored colored' plain plain' : String} (hfirst : Uncolors colored plain)
    (hsecond : Uncolors colored' plain') : Uncolors (colored ++ colored') (plain ++ plain') := by
  intro rest
  simp only [String.toList_append, List.append_assoc]
  rw [hfirst, hsecond]

theorem append_plain {colored plain s : String} (h : Uncolors colored plain) (hs : IsPlain s) :
    Uncolors (colored ++ s) (plain ++ s) :=
  append h hs.uncolors

theorem joinMap {α : Type} {items : List α} {colored plain : α → String}
    (hitems : ∀ item ∈ items, Uncolors (colored item) (plain item)) :
    Uncolors (joinWith "" (items.map colored)) (joinWith "" (items.map plain)) := by
  induction items with
  | nil => exact fun _ => rfl
  | cons item items ih =>
      simp only [List.forall_mem_cons] at hitems
      simp only [List.map_cons, joinWith_nothing_cons]
      exact append hitems.1 (ih hitems.2)

/-- The relation determines what deletion gives. -/
theorem uncolored_eq {colored plain : String} (h : Uncolors colored plain) :
    uncolored colored = plain := by
  have hall : deleteColors colored.toList = plain.toList := by simpa [deleteColors] using h []
  rw [uncolored, hall, String.ofList_toList]

end Uncolors

end Text

namespace Render

open Text

namespace Style

/-- There is nothing to resume in a text without an escape. -/
theorem resume_eq_self (on : List Char) {cs : List Char} (hcs : escape ∉ cs) :
    resume on cs = cs := by
  fun_induction resume on cs with
  | case1 rest _ => exact absurd List.mem_cons_self hcs
  | case2 c rest _ ih =>
      simp only [List.mem_cons, not_or] at hcs
      rw [ih hcs.2]
  | case3 => rfl

/-- Painting puts sequences around a text and nothing else. -/
theorem uncolors_paint (style : Style) {text : String} (htext : IsPlain text) :
    Uncolors (style.paint true text) (style.paint false text) := by
  intro rest
  have hcodes : 'm' ∉ style.codes.toList := by
    cases style with
    | severity level => cases level <;> decide
    | _ => decide
  have hstart (cs : List Char) : deleteColors (style.start.toList ++ cs) = deleteColors cs := by
    rw [← deleteColors_sequence hcodes cs]
    simp [start, escape]
  have hzero : 'm' ∉ ['0'] := by decide
  have hstop (cs : List Char) : deleteColors (stop.toList ++ cs) = deleteColors cs :=
    deleteColors_sequence hzero cs
  simp only [paint, if_true, Bool.false_eq_true, if_false, String.toList_append,
    String.toList_ofList, List.append_assoc, resume_eq_self _ htext]
  rw [hstart, deleteColors_append htext, hstop]

end Style

end Render

/-- The texts of an entry that come from outside. -/
def ScriptEntry.texts (entry : ScriptEntry) : List String :=
  entry.kind :: entry.text :: (entry.report.findings.flatMap fun f => [f.ruleId, f.detail]) ++
    entry.report.failedRules

/-- The texts of a rule's description. -/
def RuleInfo.texts (info : RuleInfo) : List String :=
  [info.id, info.name]

namespace Render

open Text

/-- The colours of a finding can be deleted if rule id and detail are plain. -/
theorem uncolors_findingLine {f : Finding} (hid : IsPlain f.ruleId) (hdetail : IsPlain f.detail) :
    Uncolors (findingLine true f) (findingLine false f) := by
  have hlabel : IsPlain f.severity.label := by cases f.severity <;> decide
  have hopen : Uncolors "  [" "  [" := IsPlain.uncolors (by decide)
  have hlabelled := hopen.append (Style.uncolors_paint (.severity f.severity) hlabel)
  have hid' := (hlabelled.append_plain (s := "] ") (by decide)).append_plain hid
  have hdetail' := (hid'.append_plain (s := ": ") (by decide)).append_plain hdetail
  exact hdetail'.append_plain (by decide)

theorem uncolors_breakdownLine {failed : List String} (hfailed : ∀ id ∈ failed, IsPlain id) :
    Uncolors (breakdownLine true failed) (breakdownLine false failed) := by
  unfold breakdownLine
  split
  next => exact IsPlain.uncolors (by decide)
  next =>
    have hids : IsPlain (joinWith ", " failed) := isPlain_joinWith (by decide) hfailed
    have hline : IsPlain ("  rules skipped after internal failure: " ++ joinWith ", " failed) :=
      isPlain_append.mpr ⟨by decide, hids⟩
    exact (Style.uncolors_paint .breakdown hline).append_plain (by decide)

theorem isPlain_detailLines {entry : ScriptEntry} (htext : IsPlain entry.text) :
    IsPlain (detailLines entry) := by
  unfold detailLines
  simp only [isPlain_append, htext, isPlain_toString, and_true]
  decide

theorem isPlain_summaryLine (s : Summary) : IsPlain (summaryLine s) := by
  unfold summaryLine
  simp only [isPlain_append, isPlain_toString, and_true]
  decide

/-- The colours of a statement's review can be deleted if its texts are plain. -/
theorem uncolors_entryText (verbose : Bool) {entry : ScriptEntry}
    (htexts : ∀ t ∈ entry.texts, IsPlain t) :
    Uncolors (entryText true verbose entry) (entryText false verbose entry) := by
  simp only [ScriptEntry.texts, List.cons_append, List.forall_mem_cons,
    List.forall_mem_append] at htexts
  obtain ⟨hkind, htext, hfindings, hfailed⟩ := htexts
  have hheading :
      IsPlain ("Statement #" ++ toString entry.index ++ " (" ++ entry.kind ++ "):") := by
    simp only [isPlain_append, isPlain_toString, hkind, and_true]
    decide
  have hverbose : IsPlain (if verbose then detailLines entry else "") := by
    split
    next => exact isPlain_detailLines htext
    next => decide
  have hclean : IsPlain (if entry.report.isClean then "  no issues\n" else "") := by
    split <;> decide
  have hlines : Uncolors (joinWith "" (entry.report.findings.map (findingLine true)))
      (joinWith "" (entry.report.findings.map (findingLine false))) := by
    apply Uncolors.joinMap
    intro f hf
    have hmem (t : String) (ht : t ∈ [f.ruleId, f.detail]) : IsPlain t :=
      hfindings t (List.mem_flatMap.mpr ⟨f, hf, ht⟩)
    exact uncolors_findingLine (hmem f.ruleId (by simp)) (hmem f.detail (by simp))
  have hhead := (Style.uncolors_paint .heading hheading).append_plain (s := "\n") (by decide)
  exact ((((hhead.append_plain hverbose).append_plain hclean).append hlines).append
    (uncolors_breakdownLine hfailed)).append_plain (by decide)

/-- The colours of a report can be deleted if the texts of all entries are plain. -/
theorem uncolors_plainText (verbose : Bool) {entries : List ScriptEntry}
    (hentries : ∀ entry ∈ entries, ∀ t ∈ entry.texts, IsPlain t) :
    Uncolors (plainText true verbose entries) (plainText false verbose entries) := by
  have hparagraphs :=
    Uncolors.joinMap fun entry hentry => uncolors_entryText verbose (hentries entry hentry)
  exact hparagraphs.append_plain (isPlain_summaryLine _)

theorem isPlain_padRight (width : Nat) {s : String} (hs : IsPlain s) :
    IsPlain (padRight width s) := by
  have hblanks : IsPlain (String.ofList (List.replicate (width - s.length) ' ')) := by
    rw [IsPlain, String.toList_ofList]
    intro hmem
    exact absurd (List.eq_of_mem_replicate hmem) (by decide)
  exact isPlain_append.mpr ⟨hs, hblanks⟩

theorem isPlain_ruleLine (width : Nat) {info : RuleInfo} (htexts : ∀ t ∈ info.texts, IsPlain t) :
    IsPlain (ruleLine width info) := by
  have hid : IsPlain (padRight width info.id) :=
    isPlain_padRight _ (htexts _ (by simp [RuleInfo.texts]))
  have hseverity : IsPlain (padRight 8 info.severity.label) :=
    isPlain_padRight _ (by cases info.severity <;> decide)
  have hcategory : IsPlain (padRight 11 info.category.label) :=
    isPlain_padRight _ (by cases info.category <;> decide)
  have hname : IsPlain info.name := htexts _ (by simp [RuleInfo.texts])
  unfold ruleLine
  simp only [isPlain_append, hid, hseverity, hcategory, hname, and_true]
  decide

/-- The colours of the table of rules can be deleted if the texts of all rules are plain. -/
theorem uncolors_ruleTable {rules : List RuleInfo}
    (hrules : ∀ info ∈ rules, ∀ t ∈ info.texts, IsPlain t) :
    Uncolors (ruleTable true rules) (ruleTable false rules) := by
  have htitle : IsPlain (toString rules.length ++ " enabled rule(s):") :=
    isPlain_append.mpr ⟨isPlain_toString _, by decide⟩
  have hlines := Uncolors.joinMap fun info hinfo =>
    (isPlain_ruleLine (idWidth rules) (hrules info hinfo)).uncolors
  exact ((Style.uncolors_paint .title htitle).append_plain (s := "\n") (by decide)).append hlines

end Render

/-- Deleting the colour sequences of a coloured report, detailed or not, gives the report without
colours, if no text in it has an escape character; and the same holds of the table of rules. -/
theorem uncolored_output_eq_plain :
    (∀ (entries : List ScriptEntry) (verbose : Bool),
      (∀ entry ∈ entries, ∀ t ∈ entry.texts, Text.escape ∉ t.toList) →
        Text.uncolored (Render.report ⟨.text, true, verbose⟩ entries) =
          Render.report ⟨.text, false, verbose⟩ entries) ∧
    ∀ rules : List RuleInfo, (∀ info ∈ rules, ∀ t ∈ info.texts, Text.escape ∉ t.toList) →
      Text.uncolored (Render.ruleTable true rules) = Render.ruleTable false rules := by
  constructor
  · intro entries verbose hentries
    exact (Render.uncolors_plainText verbose hentries).uncolored_eq
  · intro rules hrules
    exact (Render.uncolors_ruleTable hrules).uncolored_eq

/-- A review with brackets, digits and the letter that ends colour sequences next to what is
coloured. -/
def bracketedEntries : List ScriptEntry :=
  [⟨1, "m[0m", "SELECT '[1;31m'",
    ⟨[⟨"m", .blocker, "[0m\n3"⟩, ⟨"36m", .minor, ""⟩], 2, ["[35m", "m"]⟩⟩, ⟨2, "", "", ⟨[], 0, []⟩⟩]

theorem uncolored_output_eq_plain_brackets :
    (∀ entry ∈ bracketedEntries, ∀ t ∈ entry.texts, Text.escape ∉ t.toList) ∧
      Text.uncolored (Render.report ⟨.text, true, true⟩ bracketedEntries) =
        Render.report ⟨.text, false, true⟩ bracketedEntries ∧
      (∀ info ∈ [(⟨"[1m", "m", .minor, .schema⟩ : RuleInfo)], ∀ t ∈ info.texts,
        Text.escape ∉ t.toList) ∧
      Text.uncolored (Render.ruleTable true [⟨"[1m", "m", .minor, .schema⟩]) =
        Render.ruleTable false [⟨"[1m", "m", .minor, .schema⟩] := by
  have hentries : ∀ entry ∈ bracketedEntries, ∀ t ∈ entry.texts, Text.escape ∉ t.toList := by decide
  have hrules : ∀ info ∈ [(⟨"[1m", "m", .minor, .schema⟩ : RuleInfo)],
      ∀ t ∈ info.texts, Text.escape ∉ t.toList := by
    decide
  exact ⟨hentries, uncolored_output_eq_plain.1 _ true hentries, hrules,
    uncolored_output_eq_plain.2 _ hrules⟩

end SqlAudit
