/-
  InfraEvidence — comma-separated posture reports are read back.

  * `PostureDocument.lists`, `total`: what an analysis lists and counts;
  * `PostureDocument.shown`: the records that show an analysis: its score, its
    total, and its lists, those without an item left out;
  * `PostureDocument.metricRecord_eq`, `records_eq`: they are written as fields that
    a reader takes apart again, the score and the names as they are;
  * `PostureDocument.csv_reads`: so a report is read back as the names of the
    columns and the records of each analysis in turn, whatever the references are.
-/
import InfraEvidence.Proofs.Report.Records

namespace InfraEvidence

open Posture

namespace PostureDocument

open Csv (record escape isSpecial written)

/-! ## What a report says -/

/-- The lists of an analysis under their names, in the order of its kind. -/
def lists : Analysis → List (String × List String)
  | .encryption a => [
    ("encrypted_resources", a.encrypted),
    ("unencrypted_resources", a.unencrypted),
    ("encryption_methods",
      a.methods.entries.map fun e => e.1 ++ " (" ++ toString e.2.length ++ ")")]
  | .access a => [
    ("roles", a.roles),
    ("policies", a.policies),
    ("overly_permissive", a.permissive)]
  | .network a => [
    ("security_groups", a.groups),
    ("open_to_internet", a.openRanges),
    ("restricted_access", a.restricted)]

/-- What an analysis counts. -/
def total : Analysis → Nat
  | .encryption a => a.total
  | .access a => a.total
  | .network a => a.total

/-- The names of the columns. -/
def columns : List String := ["category", "metric", "value"]

/-- The record of a list. -/
def listRecord (category : String) (l : String × List String) : List String :=
  [category, l.1, Report.join "; " l.2]

/-- The records that show an analysis. -/
def shown (a : Analysis) : List (List String) :=
  [a.category, "security_score", scoreText a.score] ::
    [a.category, "total_resources", toString (total a)] ::
      ((lists a).filter fun l => l.2 ≠ []).map (listRecord a.category)

theorem category_of_mem_shown {a : Analysis} {r : List String} (h : r ∈ shown a) :
    r.length = 3 ∧ r.head? = some a.category := by
  simp only [shown, List.mem_cons, List.mem_map] at h
  rcases h with rfl | rfl | ⟨l, -, rfl⟩ <;> exact ⟨rfl, rfl⟩

/-! ## What is written -/

theorem isSpecial_of_isWritten {c : Char} (h : Fixed.IsWritten c) : isSpecial c = false := by
  rcases h with h | h
  · exact Csv.isSpecial_of_isDigit h
  · have hall : Fixed.marks.all (isSpecial · == false) = true := by decide
    exact beq_iff_eq.1 (List.all_eq_true.1 hall c h)

theorem escape_scoreText (score : Float) : escape (scoreText score) = scoreText score :=
  Csv.escape_of_plain fun _ hc => isSpecial_of_isWritten (Fixed.isWritten_of_mem_render hc)

/-- The fields that do not depend on what is analyzed. -/
def fixedFields : List String :=
  columns ++ ["encryption", "iam", "network"] ++
    ["security_score", "total_resources", "encrypted_resources", "unencrypted_resources",
      "encryption_methods", "roles", "policies", "overly_permissive", "security_groups",
      "open_to_internet", "restricted_access"]

theorem escape_fixedFields : ∀ f ∈ fixedFields, escape f = f := by decide

theorem escape_category (a : Analysis) : escape a.category = a.category :=
  escape_fixedFields _ (by cases a <;> simp [fixedFields, Analysis.category])

theorem metrics_eq (a : Analysis) :
    metrics a = ("total_resources", [toString (total a)]) :: lists a := by
  cases a <;> simp [metrics, lists, total, methodSummaries]

theorem escape_metric {a : Analysis} {m : String × List String} (h : m ∈ metrics a) :
    escape m.1 = m.1 := by
  have hnames : (metrics a).map (·.1) ⊆ fixedFields := by
    cases a <;> simp [metrics, fixedFields]
  exact escape_fixedFields _ (hnames (List.mem_map_of_mem h))

/-- **A list is written as a record of fields**, and an empty one not at all. -/
theorem metricRecord_eq (a : Analysis) {m : String × List String} (h : m ∈ metrics a) :
    metricRecord a.category m =
      if m.2 ≠ [] then record ((listRecord a.category m).map escape) else "" := by
  rw [metricRecord, ite_not]
  refine if_congr List.isEmpty_iff rfl ?_
  rw [listRecord, List.map_cons, List.map_cons, List.map_singleton, escape_category,
    escape_metric h]

theorem concat_records (a : Analysis) {ms : List (String × List String)}
    (h : ∀ m ∈ ms, m ∈ metrics a) :
    Report.concat (ms.map (metricRecord a.category)) =
      written ((ms.filter fun m => m.2 ≠ []).map (listRecord a.category)) := by
  induction ms with
  | nil => rfl
  | cons m ms ih =>
    obtain ⟨hm, hms⟩ := List.forall_mem_cons.1 h
    rw [List.map_cons, Report.concat_cons, ih hms, metricRecord_eq a hm]
    by_cases hempty : m.2 = []
    · rw [if_neg (not_not_intro hempty), List.filter_cons_of_neg (by simp [hempty]),
        String.empty_append]
    · rw [if_pos hempty, List.filter_cons_of_pos (by simp [hempty]), List.map_cons,
        Csv.written_cons]

/-- **An analysis is written as its records.** -/
theorem records_eq (a : Analysis) : records a = written (shown a) := by
  have hscore : [a.category, "security_score", scoreText a.score].map escape =
      [a.category, "security_score", scoreText a.score] := by
    have hname : escape "security_score" = "security_score" := escape_fixedFields _ (by decide)
    rw [List.map_cons, List.map_cons, List.map_singleton, escape_category, hname, escape_scoreText]
  have hlists : (metrics a).filter (fun m => m.2 ≠ []) =
      ("total_resources", [toString (total a)]) :: (lists a).filter fun l => l.2 ≠ [] := by
    rw [metrics_eq, List.filter_cons_of_pos (by simp)]
  have htotal : listRecord a.category ("total_resources", [toString (total a)]) =
      [a.category, "total_resources", toString (total a)] := by
    rw [listRecord, Report.join, String.intercalate_singleton]
  rw [records, concat_records a fun _ hm => hm, hlists, List.map_cons, htotal, shown,
    Csv.written_cons [a.category, "security_score", _], hscore]

theorem csv_eq (as : List Analysis) : csv as = written (columns :: as.flatMap shown) := by
  have hcolumns : columns.map escape = columns := by decide
  have hrecords : Report.concat (as.map records) = written (as.flatMap shown) := by
    induction as with
    | nil => rfl
    | cons a as ih =>
      rw [List.map_cons, Report.concat_cons, ih, records_eq, List.flatMap_cons,
        Csv.written_append]
  rw [csv, hrecords, Csv.written_cons, hcolumns]
  rfl

/-! ## The main result -/

/-- **A posture report is read back.**  It is written for all analyses, and begins
    with the names of the columns, once.  Then every analysis has, in the order
    given, its records of three fields, all with its category: the score, the
    total, and in the order of its kind each list that is not empty, its items
    joined; methods of encryption come in the order of their names. -/
theorem csv_reads (time : String) (as : List Analysis) :
    ∃ document, render? .csv time as = .ok document ∧
      Csv.records? document.toList = some (columns :: as.flatMap shown) ∧
      (∀ a ∈ as, ∀ r ∈ shown a, r.length = 3 ∧ r.head? = some a.category) ∧
      ∀ a, .encryption a ∈ as → a.methods.entries.Pairwise fun m n => m.1 < n.1 := by
  refine ⟨csv as, rfl, ?_, fun a _ r hr => category_of_mem_shown hr,
    fun a _ => a.methods.increasing⟩
  -- a record without fields could not be told from an empty line
  have hfields : ∀ r ∈ columns :: as.flatMap shown, r ≠ [] := by
    refine List.forall_mem_cons.2 ⟨by decide, fun r hr => ?_⟩
    obtain ⟨a, -, hr⟩ := List.mem_flatMap.1 hr
    rintro rfl
    exact absurd (category_of_mem_shown hr).1 (by decide)
  rw [csv_eq]
  exact Csv.records?_written hfields

end PostureDocument

end InfraEvidence
