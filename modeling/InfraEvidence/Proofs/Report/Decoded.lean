/-
  InfraEvidence — structured reports are read back.

  * `Json.block?`: the block that a value stands for.  Fields may come in any
    order, other fields are ignored, and a field that an empty block need not
    write may be missing;
  * `JsonReport.block?_blockValue`: a block is read back as it was;
  * `JsonReport.Describes`: what a value says about the reported blocks;
  * `JsonReport.render_describes`: both layouts of a report are the same value,
    and it describes the blocks.
-/
import InfraEvidence.Proofs.Json.Layout
import InfraEvidence.Proofs.Report.Groups
import InfraEvidence.Report.Json

namespace InfraEvidence

namespace Json

variable {α : Type}

/-- The values of the fields with a key. -/
def valuesOf (k : String) : Json → List Json
  | object fields => (fields.filter (·.1 = k)).map (·.2)
  | _ => []

/-- The value of a field that must be there, once. -/
def required? (decode : Json → Option α) (k : String) (v : Json) : Option α :=
  match v.valuesOf k with
  | [w] => decode w
  | _ => none

/-- The value of a field that may be there, once. -/
def defaulted? (decode : Json → Option α) (missing : α) (k : String) (v : Json) : Option α :=
  match v.valuesOf k with
  | [] => some missing
  | [w] => decode w
  | _ => none

def text? : Json → Option String
  | text s => some s
  | _ => none

/-- A whole number below `2 ^ 64`. -/
def natural? : Json → Option Nat
  | number n => if n = .ofNat n.whole ∧ n.whole < 2 ^ 64 then some n.whole else none
  | _ => none

def listOf? (decode : Json → Option α) : Json → Option (List α)
  | list items => items.mapM decode
  | _ => none

def dictOf? (decode : Json → Option α) : Json → Option (Dict α)
  | object fields => (fields.mapM fun e => (decode e.2).map (e.1, ·)).map Dict.ofList
  | _ => none

def pairOf? (decode : Json → Option α) : Json → Option (α × α)
  | list [v, w] => do return (← decode v, ← decode w)
  | _ => none

def optional? (decode : Json → Option α) : Json → Option (Option α)
  | null => some none
  | v => (decode v).map some

/-- The block that a value stands for: what an empty block lacks may be missing. -/
def block? (v : Json) : Option Block := do
  return {
    file := ← required? text? "file_path" v
    type := ← required? text? "resource_type" v
    name := ← required? text? "resource_name" v
    firstLine := ← required? natural? "line_start" v
    lastLine := ← required? natural? "line_end" v
    settings := ← defaulted? (dictOf? text?) Dict.empty "configuration" v
    assignments := ← defaulted? (listOf? (pairOf? text?)) [] "assignments" v
    rawText := ← defaulted? text? "" "raw_content" v
    reference := ← defaulted? (optional? text?) none "reference" v
    controls := ← defaulted? (fun w => (listOf? text? w).map NameSet.ofList) NameSet.empty
      "security_relevance" v }

theorem mapM_map {β : Type} {encode : α → β} {decode : β → Option α} {xs : List α}
    (h : ∀ x ∈ xs, decode (encode x) = some x) : (xs.map encode).mapM decode = some xs := by
  induction xs with
  | nil => rfl
  | cons x xs ih =>
    rw [List.map_cons, List.mapM_cons, h x List.mem_cons_self,
      ih fun y hy => h y (List.mem_cons_of_mem _ hy)]
    rfl

theorem natural?_toJson {n : Nat} (h : n < 2 ^ 64) :
    natural? (JsonValue.number n).toJson = some n := by
  rw [JsonValue.toJson, natural?, if_pos ⟨rfl, h⟩]
  rfl

theorem listOf?_toJson {decode : Json → Option α} (encode : α → JsonValue) {xs : List α}
    (h : ∀ x ∈ xs, decode (encode x).toJson = some x) :
    listOf? decode (JsonValue.list (xs.map encode)).toJson = some xs := by
  rw [JsonValue.toJson, JsonValue.itemsToJson_eq_map, listOf?, List.map_map]
  exact mapM_map h

theorem dictOf?_toJson {decode : Json → Option α} (encode : α → JsonValue) {d : Dict α}
    (h : ∀ e ∈ d.entries, decode (encode e.2).toJson = some e.2) :
    dictOf? decode (JsonValue.object (d.entries.map fun e => (e.1, encode e.2))).toJson =
      some d := by
  rw [JsonValue.toJson, JsonValue.fieldsToJson_eq_map, dictOf?, List.map_map, mapM_map]
  · rw [Option.map_some, Dict.ofList_entries]
  · intro e he
    simp [h e he]

theorem valuesOf_toJson (k : String) (fields : List (String × JsonValue)) :
    valuesOf k (JsonValue.object fields).toJson =
      (fields.filter (·.1 = k)).map (·.2.toJson) := by
  rw [JsonValue.toJson, JsonValue.fieldsToJson_eq_map, valuesOf, List.filter_map, List.map_map]
  rfl

end Json

namespace JsonReport

open Json

/-! ## Blocks -/

/-- Fields with one key. -/
theorem filter_key {key : String} {fields : List (String × JsonValue)}
    (h : ∀ e ∈ fields, e.1 = key) (k : String) :
    fields.filter (·.1 = k) = if k = key then fields else [] := by
  split
  · next hk => exact List.filter_eq_self.2 fun e he => decide_eq_true ((h e he).trans hk.symm)
  · next hk =>
    refine List.filter_eq_nil_iff.2 fun e he heq => hk ?_
    rw [← of_decide_eq_true heq, h e he]

theorem filter_assignmentsField (b : Block) (k : String) :
    (assignmentsField b).filter (·.1 = k) =
      if k = "assignments" then assignmentsField b else [] := by
  refine filter_key (fun e he => ?_) k
  rw [assignmentsField] at he
  split at he
  · exact absurd he List.not_mem_nil
  · rw [List.mem_singleton.1 he]

theorem filter_referenceField (b : Block) (k : String) :
    (referenceField b).filter (·.1 = k) = if k = "reference" then referenceField b else [] := by
  refine filter_key (fun e he => ?_) k
  rw [referenceField, Option.mem_toList, Option.map_eq_some_iff] at he
  obtain ⟨r, -, rfl⟩ := he
  rfl

theorem assignments_blockValue (b : Block) :
    defaulted? (listOf? (pairOf? text?)) [] "assignments" (blockValue b).toJson =
      some b.assignments := by
  have hvalues : valuesOf "assignments" (blockValue b).toJson =
      (assignmentsField b).map (·.2.toJson) := by
    simp [blockValue, valuesOf_toJson, filter_assignmentsField, filter_referenceField]
  rw [defaulted?, hvalues, assignmentsField]
  cases hempty : b.assignments.isEmpty with
  | true =>
    rw [List.isEmpty_iff.1 hempty]
    rfl
  | false =>
    exact listOf?_toJson (fun p : String × String => .list [.text p.1, .text p.2]) fun _ _ => rfl

theorem reference_blockValue (b : Block) :
    defaulted? (optional? text?) none "reference" (blockValue b).toJson = some b.reference := by
  have hvalues : valuesOf "reference" (blockValue b).toJson =
      (referenceField b).map (·.2.toJson) := by
    simp [blockValue, valuesOf_toJson, filter_assignmentsField, filter_referenceField]
  rw [defaulted?, hvalues, referenceField]
  cases b.reference <;> rfl

/-- **A block is read back** as it was. -/
theorem block?_blockValue {b : Block} (hfirst : b.firstLine < 2 ^ 64)
    (hlast : b.lastLine < 2 ^ 64) : block? (blockValue b).toJson = some b := by
  have htext : ∀ s, text? (JsonValue.text s).toJson = some s := fun _ => rfl
  have hsettings : dictOf? text? _ = some b.settings :=
    dictOf?_toJson .text fun e _ => htext e.2
  have hcontrols : listOf? text? _ = some b.controls.toList :=
    listOf?_toJson .text fun n _ => htext n
  rw [block?, assignments_blockValue, reference_blockValue]
  simp [required?, defaulted?, blockValue, valuesOf_toJson, filter_assignmentsField,
    filter_referenceField, htext, natural?_toJson hfirst, natural?_toJson hlast, hsettings,
    hcontrols, NameSet.ofList_toList]

theorem blocks?_blockValue {bs : List Block}
    (hlines : ∀ b ∈ bs, b.firstLine < 2 ^ 64 ∧ b.lastLine < 2 ^ 64) :
    listOf? block? (JsonValue.list (bs.map blockValue)).toJson = some bs :=
  listOf?_toJson blockValue fun b hb => block?_blockValue (hlines b hb).1 (hlines b hb).2

/-! ## Reports -/

/-- What a report says about the blocks. -/
structure Describes (report : Json) (time : String) (commit : Option String) (bs : List Block) :
    Prop where
  results : required? (listOf? block?) "results" report = some bs
  /-- All groups in order are the blocks sorted by type, ties in the order given -/
  groups : ∃ groups, required? (dictOf? (listOf? block?)) "resource_types" report = some groups ∧
    groups.values.flatten = bs.mergeSort fun a b => a.type ≤ b.type
  summary : ∃ summary, report.valuesOf "scan_summary" = [summary] ∧
    summary.valuesOf "total_resources" = [number (.ofNat bs.length)] ∧
    summary.valuesOf "resource_types_count" =
      [number (.ofNat (bs.map (·.type)).dedup.length)] ∧
    summary.valuesOf "total_files" = [number (.ofNat (bs.map (·.file)).dedup.length)] ∧
    summary.valuesOf "scanned_at" = [text time] ∧
    summary.valuesOf "terraform_git_hash" = commit.toList.map text

theorem required?_toJson {α : Type} {decode : Json → Option α} {k : String} {v : JsonValue}
    {fields : List (String × JsonValue)} (h : fields.filter (·.1 = k) = [(k, v)]) :
    required? decode k (JsonValue.object fields).toJson = decode v.toJson := by
  rw [required?, valuesOf_toJson, h]
  rfl

theorem describes_value (time : String) (commit : Option String) {bs : List Block}
    (hlines : ∀ b ∈ bs, b.firstLine < 2 ^ 64 ∧ b.lastLine < 2 ^ 64) :
    Describes (value time commit bs).toJson time commit bs where
  results := by
    rw [value, required?_toJson rfl]
    exact blocks?_blockValue hlines
  groups := by
    refine ⟨Report.byType bs, ?_, Report.flatten_byType bs⟩
    rw [value, required?_toJson rfl]
    refine dictOf?_toJson (fun g : List Block => .list (g.map blockValue)) fun e he => ?_
    refine blocks?_blockValue fun b hb => hlines b ?_
    rw [Report.type_of_mem_byType he] at hb
    exact (List.mem_filter.1 hb).1
  summary := by
    refine ⟨(summary time commit bs).toJson, by rw [value, valuesOf_toJson]; rfl, ?_⟩
    rw [← Report.size_byType, ← NameSet.size_ofList]
    cases commit <;> exact ⟨rfl, rfl, rfl, rfl, rfl⟩

/-- **A report is read back.** Its text is a value, the same in both layouts, and
    the value describes the blocks. -/
theorem render_describes (time : String) (commit : Option String) {bs : List Block}
    (hlines : ∀ b ∈ bs, b.firstLine < 2 ^ 64 ∧ b.lastLine < 2 ^ 64) :
    ∃ report, (∀ isPretty, Json.read? (render isPretty time commit bs) = some report) ∧
      Describes report time commit bs :=
  ⟨(value time commit bs).toJson, fun isPretty => (value time commit bs).read?_render isPretty,
    describes_value time commit hlines⟩

/-- Two blocks that are not in the order of their types, with quotes, a
    backslash and control characters, the first without assignments and
    reference. -/
def quotedBlocks : List Block :=
  [{ Block.starting "a \"b\".tf" "locals" "local_values" 1 with rawText := "\x00\t\\\n" },
    { (Block.starting "a.tf" "aws_kms_key" "é" 4).set "\"key\"" "\x1f\x7f" with
      lastLine := 18446744073709551615
      reference := some "aws_kms_key.é"
      controls := NameSet.ofList ["SC-28", "SC-12"] }]

theorem render_describes_quotedBlocks :
    (∀ b ∈ quotedBlocks, b.firstLine < 2 ^ 64 ∧ b.lastLine < 2 ^ 64) ∧
      ∃ report, (∀ isPretty, Json.read? (render isPretty "t" none quotedBlocks) = some report) ∧
        Describes report "t" none quotedBlocks :=
  ⟨by decide, render_describes "t" none (by decide)⟩

end JsonReport

end InfraEvidence
