/-
  InfraEvidence — the address ranges of a network control, in its text.

  * `SetsRange`: a line sets an address range with some property;
  * `countP_ranges`: a block that a scan finds has as many such ranges as its
    text has such lines;
  * `scan_ranges`: so every open range is reported, and every restricted one,
    once for each line, whatever the other lines are.
-/
import InfraEvidence.Proofs.Posture.Findings
import InfraEvidence.Proofs.Scan.Assigned
import InfraEvidence.Selection

namespace InfraEvidence

open Text

namespace Posture

/-- The line assigns an address range with the property `P` to a key. -/
def SetsRange (P : String → Prop) (line : List Char) : Prop :=
  ∃ key value, Assigns line key value ∧ isRangeKey key = true ∧ P value

theorem setsRange_iff {P : String → Prop} {line : List Char} (h : trimStart line = line) :
    SetsRange P line ↔ ∃ p ∈ Block.assignmentOf? line, isRangeKey p.1 = true ∧ P p.2 := by
  constructor
  · rintro ⟨key, value, hassigns, hkey, hvalue⟩
    exact ⟨(key, value), (assigns_iff.1 hassigns).2, hkey, hvalue⟩
  · rintro ⟨⟨key, value⟩, hp, hkey, hvalue⟩
    exact ⟨key, value, assigns_iff.2 ⟨h, hp⟩, hkey, hvalue⟩

instance (P : String → Prop) [DecidablePred P] (line : List Char) : Decidable (SetsRange P line) :=
  decidable_of_iff (trimStart line = line ∧
      ∃ p ∈ Block.assignmentOf? line, isRangeKey p.1 = true ∧ P p.2) <| by
    constructor
    · rintro ⟨htrim, h⟩
      exact (setsRange_iff htrim).2 h
    · intro h
      obtain ⟨key, value, hassigns, -⟩ := id h
      have htrim := (assigns_iff.1 hassigns).1
      exact ⟨htrim, (setsRange_iff htrim).1 h⟩

/-- **A block has as many ranges with a property as its text has lines** that
    set such a range. -/
theorem countP_ranges {sc : BlockScanner} {file text : String} {b : Block}
    (hb : b ∈ sc.scan file text) (P : String → Prop) [DecidablePred P] :
    (b.assignments.countP fun p => isRangeKey p.1 && decide (P p.2)) =
      (BlockScanner.bodyOf (lines b.rawText.toList)).countP fun l => decide (SetsRange P l) := by
  rw [BlockScanner.assignments_of_mem_scan hb, List.countP_filterMap]
  refine List.countP_congr fun line hline => ?_
  rw [decide_eq_true_iff, setsRange_iff (BlockScanner.trimStart_of_mem_bodyOf hline)]
  cases Block.assignmentOf? line with
  | none => simp
  | some p => simp

theorem isRisky_of_range {key value : String} (hkey : isRangeKey key = true)
    (hvalue : contains "0.0.0.0/0".toList value.toList = true) :
    Selection.isRisky key value = true := by
  have hlow := contains_lowered_range (List.mem_cons_self : "0.0.0.0/0" ∈ openRanges) value
  have hkey : contains "cidr".toList (lowered key) = true := hkey
  unfold Selection.isRisky
  simp only [hkey, hlow, hvalue, Bool.and_self, Bool.true_or]

theorem hasIssues_of_isRisky {b : Block} {p : String × String} (hp : p ∈ b.assignments)
    (h : Selection.isRisky p.1 p.2 = true) : Selection.hasIssues b = true := by
  unfold Selection.hasIssues
  rw [Bool.or_eq_true]
  exact Or.inr (List.any_eq_true.2 ⟨p, hp, h⟩)

/-- **No range is masked by another one.**  The analysis of a network control
    that a scan finds has one entry for each line of its text that sets an
    address range, among the open ranges or among the restricted ones; and it
    has an issue if one of these lines sets a range with `0.0.0.0/0`. -/
theorem scan_ranges {sc : BlockScanner} {file text : String} {b : Block}
    (hb : b ∈ sc.scan file text) (hcontrol : isNetworkControl b = true) :
    let body := BlockScanner.bodyOf (lines b.rawText.toList)
    (analyzeNetwork [b]).openRanges =
        List.replicate (body.countP fun l => SetsRange AdmitsEveryone l) b.canonicalReference ∧
      (analyzeNetwork [b]).restricted =
        List.replicate (body.countP fun l => SetsRange (fun v => ¬ AdmitsEveryone v) l)
          b.canonicalReference ∧
      ((∃ l ∈ body, SetsRange (fun v => contains "0.0.0.0/0".toList v.toList = true) l) →
        Selection.hasIssues b = true) := by
  intro body
  have hopen : ∀ v, isOpenRange v = decide (AdmitsEveryone v) := fun v => by
    rw [Bool.eq_iff_iff, isOpenRange_iff, decide_eq_true_iff]
  refine ⟨?_, ?_, ?_⟩
  · show rangeFindings isOpenRange [b] = _
    rw [rangeFindings_singleton, if_pos hcontrol, ← countP_ranges hb]
    simp only [hopen]
  · show rangeFindings (fun v => !isOpenRange v) [b] = _
    rw [rangeFindings_singleton, if_pos hcontrol, ← countP_ranges hb]
    simp only [hopen, decide_not]
  · rintro ⟨l, hl, hsets⟩
    -- the line makes an assignment of the block, which is an issue by itself
    obtain ⟨p, hp, hkey, hvalue⟩ :=
      (setsRange_iff (BlockScanner.trimStart_of_mem_bodyOf hl)).1 hsets
    have hmem : p ∈ b.assignments := by
      rw [BlockScanner.assignments_of_mem_scan hb]
      exact List.mem_filterMap.2 ⟨l, hl, hp⟩
    exact hasIssues_of_isRisky hmem (isRisky_of_range hkey hvalue)

/-- A group with two rules under one key, the first of them open, a rule in a
    comment, and one for the newer addresses under a key in capitals. -/
def ruledGroup : List String :=
  ["resource \"aws_security_group\" \"web\" \x7b", "  ingress \x7b",
    "    cidr_blocks = [\"0.0.0.0/0\"] # all", "  \x7d", "  egress \x7b",
    "    cidr_blocks = \"10.0.0.0/8\"", "  # cidr_blocks = \"0.0.0.0/0\"", "  \x7d",
    "  IPV6_CIDR=\"::/0\"", "\x7d"]

/-- Two of its rules are open and one is not, whatever the comment says. -/
theorem scan_ranges_group :
    let text := String.ofList (unlines (ruledGroup.map String.toList))
    ∃ b ∈ (BlockScanner.resources []).scan "sg.tf" text, isNetworkControl b = true ∧
      (analyzeNetwork [b]).openRanges = ["aws_security_group.web", "aws_security_group.web"] ∧
      (analyzeNetwork [b]).restricted = ["aws_security_group.web"] ∧
      Selection.hasIssues b = true := by
  intro text
  have htext : text.toList = unlines (ruledGroup.map String.toList) := String.toList_ofList
  obtain ⟨b, hb, htype, hname, hraw⟩ : ∃ b ∈ (BlockScanner.resources []).scan "sg.tf" text,
      b.type = "aws_security_group" ∧ b.name = "web" ∧ b.rawText = text := by
    rw [BlockScanner.scan, htext]
    simp only [text, ruledGroup, List.map_cons, List.map_nil, String.reduceToList]
    decide +kernel
  have hcontrol : isNetworkControl b = true := by
    rw [isNetworkControl, htype]
    decide
  obtain ⟨hopen, hrestricted, hissues⟩ := scan_ranges hb hcontrol
  rw [Block.canonicalReference, htype, hname, hraw, htext] at hopen hrestricted
  refine ⟨b, hb, hcontrol, ?_, ?_, hissues ?_⟩
  · rw [hopen]
    simp only [ruledGroup, List.map_cons, List.map_nil, String.reduceToList]
    decide +kernel
  · rw [hrestricted]
    simp only [ruledGroup, List.map_cons, List.map_nil, String.reduceToList]
    decide +kernel
  · rw [hraw, htext]
    simp only [ruledGroup, List.map_cons, List.map_nil, String.reduceToList]
    decide +kernel

end Posture

end InfraEvidence
