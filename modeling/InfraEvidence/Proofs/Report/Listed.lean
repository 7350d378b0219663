/-
  InfraEvidence — all evidence formats list the same blocks.

  Records list blocks one by one, while sections and structured values group
  them by type.

  * `Report.filter_key_inOrder`, `Report.mergeSort_inOrder`: reports list blocks
    by type, then name, ties in the order given, so that sorting them by type
    again changes nothing;
  * `Markdown.sectionsAfter`: sections one by one, where the heading of a type
    stands before its first section only;
  * `Markdown.concat_typeSections`: groups of blocks are written as their blocks
    one by one;
  * `Markdown.shows_blockSection`, `JsonReport.shows_blockValue`: a section and a
    structured value tell which block they are about, as a record does;
  * `JsonReport.grouped`: the values of the blocks in all groups of a report;
  * `Reporter.Lists`: the records, sections and structured values of a report are
    those of some blocks, one by one;
  * `Reporter.render_lists`: all formats list the same blocks in the same order.
-/
import InfraEvidence.Proofs.Report.Decoded
import InfraEvidence.Proofs.Report.Order
import InfraEvidence.Proofs.Report.Records

namespace InfraEvidence

/-! ## The order of reports -/

namespace Report

/-- Two blocks are tied in reports if they have the same type and name. -/
theorem tied_key (a b : Block) : tied comesBefore a b = decide (key b = key a) := by
  rw [Bool.eq_iff_iff, tied_iff, decide_eq_true_iff]
  constructor
  · rintro ⟨hab, hba⟩
    exact key_eq_of_comesBefore hba hab
  · intro heq
    obtain ⟨htype, hname⟩ := Prod.mk.inj heq
    rw [comesBefore_iff, comesBefore_iff, htype, hname]
    exact ⟨Or.inr ⟨rfl, String.le_refl _⟩, Or.inr ⟨rfl, String.le_refl _⟩⟩

/-- **Ties stay in the order given.** -/
theorem filter_key_inOrder (bs : List Block) (k : String × String) :
    (inOrder bs).filter (key · = k) = bs.filter (key · = k) := by
  have hsame : ∀ b : Block, key b = k → tied comesBefore b = fun c => decide (key c = k) := by
    rintro b rfl
    exact funext (tied_key b)
  have hnil : ∀ cs : List Block, (∀ b ∈ cs, key b ≠ k) → cs.filter (key · = k) = [] :=
    fun cs h => List.filter_eq_nil_iff.2 fun b hb => by simpa using h b hb
  by_cases hnone : ∀ b ∈ bs, key b ≠ k
  · have hnone' : ∀ b ∈ inOrder bs, key b ≠ k := fun b hb =>
      hnone b ((perm_inOrder bs).mem_iff.1 hb)
    exact (hnil (inOrder bs) hnone').trans (hnil bs hnone).symm
  · simp only [not_forall, not_not] at hnone
    obtain ⟨b, -, hb⟩ := hnone
    have htrans : ∀ a b c, comesBefore a b = true → comesBefore b c = true →
        comesBefore a c = true := fun _ _ _ => comesBefore_trans
    rw [← hsame b hb, inOrder]
    exact filter_tied_mergeSort htrans comesBefore_total bs b

/-- Blocks in the order of reports are in the order of their types. -/
theorem mergeSort_inOrder (bs : List Block) :
    (inOrder bs).mergeSort (fun a b => a.type ≤ b.type) = inOrder bs := by
  refine List.mergeSort_of_pairwise ((inOrder_sorted bs).imp fun {a b} h => decide_eq_true ?_)
  rcases comesBefore_iff.1 h with hlt | ⟨heq, -⟩
  · exact String.not_lt.1 (String.lt_asymm hlt)
  · exact heq ▸ String.le_refl _

/-- No group is empty. -/
theorem ne_nil_of_mem_byType {bs : List Block} {e : String × List Block}
    (he : e ∈ (byType bs).entries) : e.2 ≠ [] := by
  have hget := Dict.get?_of_mem he
  rw [get?_byType] at hget
  split at hget
  · exact absurd hget nofun
  · next hne => exact Option.some.inj hget ▸ hne

end Report

/-! ## Sections -/

namespace Markdown

/-- The heading of a type. -/
def typeHeading (type : String) : String := "## " ++ type ++ "\n\n"

/-- The sections of some blocks, where those of the types `seen` have begun: the
    heading of another type comes before its first section. -/
def sectionsAfter (seen : List String) : List Block → List String
  | [] => []
  | b :: bs =>
    if b.type ∈ seen then blockSection b :: sectionsAfter seen bs
    else (typeHeading b.type ++ blockSection b) :: sectionsAfter (b.type :: seen) bs

theorem sectionsAfter_seen {seen : List String} {bs : List Block} (h : ∀ b ∈ bs, b.type ∈ seen)
    (later : List Block) :
    sectionsAfter seen (bs ++ later) = bs.map blockSection ++ sectionsAfter seen later := by
  induction bs with
  | nil => rfl
  | cons b bs ih =>
    obtain ⟨hb, hbs⟩ := List.forall_mem_cons.1 h
    rw [List.cons_append, sectionsAfter, if_pos hb, ih hbs, List.map_cons, List.cons_append]

theorem sectionsAfter_new {seen : List String} {b : Block} {bs : List Block} (hb : b.type ∉ seen)
    (hbs : ∀ c ∈ bs, c.type = b.type) (later : List Block) :
    sectionsAfter seen (b :: bs ++ later) =
      (typeHeading b.type ++ blockSection b) :: bs.map blockSection ++
        sectionsAfter (b.type :: seen) later := by
  have hseen : ∀ c ∈ bs, c.type ∈ b.type :: seen := fun c hc => hbs c hc ▸ List.mem_cons_self
  rw [List.cons_append, sectionsAfter, if_neg hb, sectionsAfter_seen hseen, List.cons_append]

/-- **Groups are written as their blocks one by one.** -/
theorem concat_typeSections {seen : List String} {groups : List (String × List Block)}
    (hkeys : groups.Pairwise fun g h => g.1 ≠ h.1) (hnew : ∀ g ∈ groups, g.1 ∉ seen)
    (hne : ∀ g ∈ groups, g.2 ≠ []) (htype : ∀ g ∈ groups, ∀ b ∈ g.2, b.type = g.1) :
    Report.concat (groups.map typeSection) =
      Report.concat (sectionsAfter seen (groups.map (·.2)).flatten) := by
  induction groups generalizing seen with
  | nil => rfl
  | cons g groups ih =>
    obtain ⟨hg, hgroups⟩ := List.pairwise_cons.1 hkeys
    obtain ⟨hgnew, hnewTail⟩ := List.forall_mem_cons.1 hnew
    obtain ⟨hgne, hneTail⟩ := List.forall_mem_cons.1 hne
    obtain ⟨hgtype, htypeTail⟩ := List.forall_mem_cons.1 htype
    obtain ⟨type, members⟩ := g
    obtain ⟨b, bs, rfl⟩ := List.exists_cons_of_ne_nil hgne
    obtain ⟨hb, hbs⟩ := List.forall_mem_cons.1 hgtype
    obtain rfl : b.type = type := hb
    have hnew' : ∀ h ∈ groups, h.1 ∉ b.type :: seen := fun h hh =>
      List.not_mem_cons_of_ne_of_not_mem (hg h hh).symm (hnewTail h hh)
    rw [List.map_cons, List.map_cons, List.flatten_cons, sectionsAfter_new hgnew hbs,
      Report.concat_append, Report.concat_cons, Report.concat_cons,
      ih hgroups hnew' hneTail htypeTail]
    simp only [typeSection, typeHeading, List.map_cons, Report.concat_cons, String.append_assoc]

/-- **Sections list blocks by type**, ties in the order given. -/
theorem render_eq (time : String) (commit : Option String) (bs : List Block) :
    render time commit bs = preamble time commit bs ++
      Report.concat (sectionsAfter [] (bs.mergeSort fun a b => a.type ≤ b.type)) := by
  have hkeys : (Report.byType bs).entries.Pairwise fun g h => g.1 ≠ h.1 :=
    (Report.byType bs).increasing.imp fun {g h} hlt (heq : g.1 = h.1) =>
      String.lt_irrefl g.1 (heq ▸ hlt)
  have htype : ∀ g ∈ (Report.byType bs).entries, ∀ b ∈ g.2, b.type = g.1 := by
    intro g hg b hb
    rw [Report.type_of_mem_byType hg] at hb
    exact of_decide_eq_true (List.mem_filter.1 hb).2
  rw [render, concat_typeSections hkeys (fun _ _ => List.not_mem_nil)
    (fun _ => Report.ne_nil_of_mem_byType) htype]
  exact congrArg (fun l => _ ++ Report.concat (sectionsAfter [] l)) (Report.flatten_byType bs)

/-! ## What sections say -/

/-- The lines above the sections: the title, the time, the commit if there is one,
    and how many sections there are. -/
def openingLines (time : String) (commit : Option String) (count : Nat) : List String :=
  ["# Terraform Security Configuration Evidence", "", "Generated: " ++ time] ++
    (commit.map fun c => "Terraform Repository Commit: `" ++ c ++ "`").toList ++
    ["Total Resources: " ++ toString count, ""]

theorem commitLine_some (c : String) :
    commitLine (some c) = "Terraform Repository Commit: " ++ code c ++ "\n" := rfl

theorem preamble_eq (time : String) (commit : Option String) (bs : List Block) :
    preamble time commit bs =
      Report.concat ((openingLines time commit bs.length).map (· ++ "\n")) := by
  -- the texts are compared by their characters, whatever pieces they are made of
  rw [← String.toList_inj, Report.toList_concat]
  delta preamble
  cases commit with
  | none =>
    have hnone : (commitLine none).toList = [] := rfl
    simp [openingLines, hnone]
  | some c => simp [openingLines, commitLine_some, code]

/-- A setting as a section shows it, in a code block if it has several lines. -/
def shownSetting (key value : String) : String :=
  "- **" ++ key ++ ":**" ++
    if '\n' ∈ value.toList then "\n\n```hcl\n" ++ value ++ "\n```\n" else " `" ++ value ++ "`\n"

/-- The details of a block: each control code, and each setting that is not empty. -/
structure Details (b : Block) (text : String) : Prop where
  codes : ∀ c ∈ b.controls.toList, ("`" ++ c ++ "`").toList <:+: text.toList
  settings : ∀ e ∈ b.settings.entries, e.2 ≠ "" → (shownSetting e.1 e.2).toList <:+: text.toList

/-- A section shows a block: its name, its file and its lines, and below them its
    details. -/
def Shows (b : Block) (text : String) : Prop :=
  ∃ details, text = "### " ++ b.name ++ "\n\n**File:** `" ++ b.file ++ "` (lines " ++
      toString b.firstLine ++ "-" ++ toString b.lastLine ++ ")\n\n" ++ details ∧
    Details b details

theorem settingItem_eq (e : String × String) : settingItem e = shownSetting e.1 e.2 := by
  rw [settingItem, shownSetting, ← String.toList_inj]
  by_cases hlines : '\n' ∈ e.2.toList <;> simp [hlines, code]

theorem infix_controlsPart {b : Block} {c : String} (h : c ∈ b.controls.toList) :
    (code c).toList <:+: (controlsPart b).toList := by
  have hsome : b.controls.isEmpty = false := List.isEmpty_eq_false_iff.2 (List.ne_nil_of_mem h)
  have hjoin : (code c).toList <:+:
      (Report.join ", " (b.controls.toList.map code)).toList :=
    Report.infix_join (List.mem_map_of_mem h)
  rw [controlsPart, hsome, if_neg (by decide), String.toList_append, String.toList_append]
  exact hjoin.trans (List.infix_append _ _ _)

theorem infix_settingsPart {b : Block} {e : String × String} (h : e ∈ b.settings.entries)
    (hne : e.2 ≠ "") : (settingItem e).toList <:+: (settingsPart b).toList := by
  have hshown : e ∈ Report.shownSettings b := List.mem_filter.2 ⟨h, bne_iff_ne.2 hne⟩
  have hsome : (Report.shownSettings b).isEmpty = false :=
    List.isEmpty_eq_false_iff.2 (List.ne_nil_of_mem hshown)
  have hitem : (settingItem e).toList <:+:
      (Report.concat ((Report.shownSettings b).map settingItem)).toList :=
    Report.infix_concat (List.mem_map_of_mem hshown)
  simp only [settingsPart, hsome, Bool.false_eq_true, if_false, String.toList_append]
  exact hitem.trans (List.infix_append _ _ _)

/-- **A section shows its block.** -/
theorem shows_blockSection (b : Block) : Shows b (blockSection b) := by
  refine ⟨controlsPart b ++ settingsPart b, ?_, fun c hc => ?_, fun e he hne => ?_⟩
  · rw [← String.toList_inj]
    delta blockSection
    simp [code, Block.lineRange]
  · have hpart := (infix_controlsPart hc).trans
      (List.prefix_append _ (settingsPart b).toList).isInfix
    rwa [← String.toList_append] at hpart
  · rw [← settingItem_eq, String.toList_append]
    exact (infix_settingsPart he hne).trans (List.suffix_append _ _).isInfix

end Markdown

/-! ## Structured values -/

namespace JsonValue

/-- The items of a list. -/
def items : JsonValue → List JsonValue
  | list vs => vs
  | _ => []

/-- The fields of an object. -/
def fields : JsonValue → List (String × JsonValue)
  | object fs => fs
  | _ => []

end JsonValue

namespace JsonReport

/-- The values of the blocks in the groups of a report, one group after the other. -/
def grouped (report : JsonValue) : List JsonValue :=
  (report.fields.filter (·.1 = "resource_types")).flatMap fun e =>
    e.2.fields.flatMap fun g => g.2.items

theorem grouped_value (time : String) (commit : Option String) (bs : List Block) :
    grouped (value time commit bs) =
      (bs.mergeSort fun a b => a.type ≤ b.type).map blockValue := by
  have hfield : (value time commit bs).fields.filter (·.1 = "resource_types") =
      [("resource_types", .object ((Report.byType bs).entries.map fun g =>
        (g.1, .list (g.2.map blockValue))))] := rfl
  rw [grouped, hfield, List.flatMap_singleton, ← Report.flatten_byType, List.map_flatten,
    Dict.values, JsonValue.fields, List.flatMap_map, List.map_map]
  rfl

/-- A value shows a block: its file, its type, its name and its lines, its settings
    and its control codes. -/
structure Shows (b : Block) (v : Json) : Prop where
  file : v.valuesOf "file_path" = [.text b.file]
  type : v.valuesOf "resource_type" = [.text b.type]
  name : v.valuesOf "resource_name" = [.text b.name]
  firstLine : v.valuesOf "line_start" = [.number (.ofNat b.firstLine)]
  lastLine : v.valuesOf "line_end" = [.number (.ofNat b.lastLine)]
  settings : v.valuesOf "configuration" =
    [.object (b.settings.entries.map fun e => (e.1, .text e.2))]
  codes : v.valuesOf "security_relevance" = [.list (b.controls.toList.map .text)]

/-- **The value of a block shows it.** -/
theorem shows_blockValue (b : Block) : Shows b (blockValue b).toJson := by
  constructor <;>
    simp [blockValue, Json.valuesOf_toJson, filter_assignmentsField, filter_referenceField] <;>
    simp [JsonValue.toJson, JsonValue.itemsToJson_eq_map, JsonValue.fieldsToJson_eq_map]

end JsonReport

/-! ## All formats -/

namespace Reporter

/-- The reports of a reporter list some blocks one by one. -/
structure Lists (reporter : Reporter) (listed : List Block) : Prop where
  /-- The text is read as the names of the columns and a record for each block -/
  csv : ∃ body, reporter.renderOrdered .csv listed = Csv.commitLine reporter.commit ++ body ∧
    body = Csv.record Csv.columns ++
      Report.concat (listed.map fun b => Csv.record (Csv.fields b)) ∧
    Csv.records? body.toList = some (Csv.columns :: listed.map Csv.shownFields)
  /-- There is a section for each block -/
  markdown : reporter.renderOrdered .markdown listed =
    Markdown.preamble reporter.time.render reporter.commit listed ++
      Report.concat (Markdown.sectionsAfter [] listed)
  /-- The text is read as a value, which has the value of each block in a group -/
  json : ∃ report : JsonValue,
    reporter.renderOrdered .json listed = report.render reporter.pretty ∧
    Json.read? (report.render reporter.pretty) = some report.toJson ∧
    JsonReport.grouped report = listed.map JsonReport.blockValue

/-- Blocks by type and name are listed as they are. -/
theorem lists_inOrder (reporter : Reporter) (bs : List Block) :
    reporter.Lists (Report.inOrder bs) where
  csv := by
    refine ⟨_, String.append_assoc, rfl, ?_⟩
    rw [Csv.body_eq, Csv.records?_shown]
  markdown := by
    have hsections := Markdown.render_eq reporter.time.render reporter.commit (Report.inOrder bs)
    rw [Report.mergeSort_inOrder] at hsections
    exact hsections
  json := by
    refine ⟨JsonReport.value reporter.time.render reporter.commit (Report.inOrder bs), rfl,
      JsonValue.read?_render _ _, ?_⟩
    rw [JsonReport.grouped_value, Report.mergeSort_inOrder]

/-- **All formats list the same blocks in the same order.**  Sections and the
    groups of structured values list blocks by type, ties in the order given, and
    every section and every value shows its block.
    A report lists its blocks, each once, by type and name, ties in the order
    given: as records, as sections and in the groups of a structured value. -/
theorem render_lists (bs : List Block) :
    let byType := bs.mergeSort fun a b => a.type ≤ b.type
    (∀ time commit, Markdown.render time commit bs =
      Markdown.preamble time commit bs ++ Report.concat (Markdown.sectionsAfter [] byType)) ∧
    (∀ time commit, JsonReport.grouped (JsonReport.value time commit bs) =
      byType.map JsonReport.blockValue) ∧
    (∀ time commit cs, Markdown.preamble time commit cs =
      Report.concat ((Markdown.openingLines time commit cs.length).map (· ++ "\n"))) ∧
    (∀ b, Markdown.Shows b (Markdown.blockSection b) ∧
      JsonReport.Shows b (JsonReport.blockValue b).toJson) ∧
    ∃ listed, listed.Perm bs ∧ listed.Pairwise (Report.comesBefore · · = true) ∧
      (∀ k, listed.filter (Report.key · = k) = bs.filter (Report.key · = k)) ∧
      ∀ reporter : Reporter,
        (∀ format, reporter.render format bs =
          if bs = [] then emptyReport else reporter.renderOrdered format listed) ∧
        reporter.Lists listed := by
  intro byType
  refine ⟨fun time commit => Markdown.render_eq time commit bs,
    fun time commit => JsonReport.grouped_value time commit bs, Markdown.preamble_eq,
    fun b => ⟨Markdown.shows_blockSection b, JsonReport.shows_blockValue b⟩,
    Report.inOrder bs, Report.perm_inOrder bs, Report.inOrder_sorted bs,
    Report.filter_key_inOrder bs, fun reporter => ⟨fun format => ?_, reporter.lists_inOrder bs⟩⟩
  simp only [render, List.isEmpty_iff]

end Reporter

end InfraEvidence
