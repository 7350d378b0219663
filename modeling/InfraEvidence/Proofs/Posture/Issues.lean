/-
  InfraEvidence — findings of the posture, and issues.

  The analyses of the network and of access report blocks by their assignments,
  and a survey for issues keeps blocks by theirs.

  * `NamesUse`: a key is about actions or resources, and not only about who may
    use them;
  * `isRisky_iff_of_grantsAll`: a grant of everything is an issue exactly if its
    key is;
  * `mem_applyMode_issues`: a survey for issues keeps a block with an issue
    unless its terms or codes do not;
  * `issues_keep_findings`: it keeps every block with a finding that is an issue;
  * `principal_is_no_issue`: a grant to everybody is a finding and no issue.
-/
import InfraEvidence.Proofs.Posture.Ranges
import InfraEvidence.Proofs.Scan.Narrowing
import InfraEvidence.Proofs.Selection.Keep
import InfraEvidence.Survey

namespace InfraEvidence

open Text

namespace Posture

/-- The key is about actions or resources. -/
def NamesUse (key : String) : Prop := containsAny ["action", "resource"] (lowered key) = true

theorem namesUse_iff {key : String} :
    NamesUse key ↔ contains "action".toList (lowered key) = true ∨
      contains "resource".toList (lowered key) = true := by
  simp [NamesUse, containsAny]

/-- **A grant of everything is an issue exactly if it grants actions or resources.** -/
theorem isRisky_iff_of_grantsAll {key value : String} (h : grantsAll key value = true) :
    Selection.isRisky key value = true ↔ NamesUse key := by
  obtain ⟨hvalue, -⟩ := Bool.and_eq_true_iff.1 h
  obtain rfl := beq_iff_eq.1 hvalue
  -- the value is neither a range nor a flag
  have hstar : lowered "*" = ['*'] := by decide
  have hrange : contains "0.0.0.0/0".toList ['*'] = false := by decide
  have hflag : (['*'] == "true".toList) = false := by decide
  have hone : (['*'] == ['1']) = false := by decide
  rw [namesUse_iff]
  unfold Selection.isRisky
  simp only [hrange, hflag, hone, hstar, beq_self_eq_true, Bool.and_false, Bool.and_true,
    Bool.or_false, Bool.false_or, Bool.or_eq_true]

/-- A survey for issues keeps the blocks with an issue that its terms and its
    codes keep, and no others. -/
theorem mem_applyMode_issues {r : Request} (hmode : r.mode = .securityIssues) {bs : List Block}
    {b : Block} :
    b ∈ Survey.applyMode r bs ↔ b ∈ bs ∧ Selection.hasIssues b = true ∧
      Selection.admits Selection.matchesTerm r.terms b = true ∧
      Selection.admits Selection.codeMatches r.codes b = true := by
  simp only [Survey.applyMode, Survey.keepByMode, hmode, Selection.byCodes, Selection.byTerms,
    Selection.keep_eq_filter, List.mem_filter, and_assoc]

/-- The block is reported for a finding that is an issue too: a range with
    `0.0.0.0/0`, or a grant of every action or resource. -/
def ReportedIssue (b : Block) : Prop :=
  (b.canonicalReference ∈ (analyzeNetwork [b]).openRanges ∧
      ∃ value ∈ ranges b, contains "0.0.0.0/0".toList value.toList = true) ∨
    (b.canonicalReference ∈ (analyzeAccess [b]).permissive ∧
      ∃ p ∈ b.assignments, grantsAll p.1 p.2 = true ∧ NamesUse p.1)

theorem ReportedIssue.hasIssues {b : Block} (h : ReportedIssue b) :
    Selection.hasIssues b = true := by
  rcases h with ⟨-, value, hmem, hvalue⟩ | ⟨-, p, hp, hgrants, huse⟩
  · obtain ⟨key, hp, hkey⟩ := mem_ranges.1 hmem
    exact hasIssues_of_isRisky hp (isRisky_of_range hkey hvalue)
  · exact hasIssues_of_isRisky hp ((isRisky_iff_of_grantsAll hgrants).2 huse)

/-- **A survey for issues keeps what the analyses report.**  Behind every gap of
    the network or of access stands a block that is reported by itself; and if
    that is for a range with `0.0.0.0/0`, or for a grant of actions or resources,
    the block has an issue, and the survey keeps it unless its terms or codes do
    not.  A grant of everything whose key names only principals is no issue. -/
theorem issues_keep_findings {r : Request} (hmode : r.mode = .securityIssues) (bs : List Block) :
    (∀ required, ∀ g ∈ securityGaps bs required, g.kind ≠ .encryption →
      ∃ b ∈ bs, b.canonicalReference = g.resource ∧ Reported b) ∧
    (∀ b, ReportedIssue b → Selection.hasIssues b = true ∧
      (b ∈ bs → (b ∈ Survey.applyMode r bs ↔
        Selection.admits Selection.matchesTerm r.terms b = true ∧
          Selection.admits Selection.codeMatches r.codes b = true))) ∧
    ∀ key value, grantsAll key value = true →
      (Selection.isRisky key value = true ↔ NamesUse key) := by
  refine ⟨fun required g hg hkind => reported_of_gap hg hkind, fun b hb => ?_,
    fun key value h => isRisky_iff_of_grantsAll h⟩
  refine ⟨hb.hasIssues, fun hmem => ?_⟩
  rw [mem_applyMode_issues hmode]
  constructor
  · rintro ⟨-, -, hkept⟩
    exact hkept
  · intro hkept
    exact ⟨hmem, hb.hasIssues, hkept⟩

/-- A policy that allows every action, and a group that is open to everyone. -/
def exposedLines : List String :=
  ["resource \"aws_iam_policy\" \"admin\" \x7b", "  Actions = \"*\"", "\x7d",
    "resource \"aws_security_group\" \"web\" \x7b", "  cidr = \"0.0.0.0/0\"", "\x7d"]

/-- There is a gap for each of the two, and both are kept. -/
theorem issues_keep_findings_policy :
    let r : Request := { mode := .securityIssues }
    let found := (BlockScanner.resources []).scan "main.tf"
      (String.ofList (unlines (exposedLines.map String.toList)))
    r.mode = .securityIssues ∧
      (securityGaps found {}).map (·.resource) =
        ["aws_iam_policy.admin", "aws_security_group.web"] ∧
      found.length = 2 ∧ ∀ b ∈ found, ReportedIssue b ∧ b ∈ Survey.applyMode r found := by
  intro r found
  obtain ⟨-, hkeeps, -⟩ := issues_keep_findings (r := r) rfl found
  have hlines : found = (BlockScanner.resources []).scanLines "main.tf"
      (lines (unlines (exposedLines.map String.toList))) := by
    rw [← String.toList_ofList (l := unlines _)]
    rfl
  have hgaps : (securityGaps found {}).map (·.resource) =
      ["aws_iam_policy.admin", "aws_security_group.web"] := by
    rw [hlines]
    simp only [exposedLines, List.map_cons, List.map_nil, String.reduceToList]
    decide +kernel
  have hfound : found.map (fun b => (b.type, b.assignments)) =
      [("aws_iam_policy", [("Actions", "*")]),
        ("aws_security_group", [("cidr", "0.0.0.0/0")])] := by
    rw [hlines]
    simp only [exposedLines, List.map_cons, List.map_nil, String.reduceToList]
    decide +kernel
  have hissue : ∀ b ∈ found, ReportedIssue b := by
    intro b hb
    have hmem := List.mem_map_of_mem (f := fun b : Block => (b.type, b.assignments)) hb
    rw [hfound, List.mem_cons, List.mem_singleton] at hmem
    rcases hmem with h | h
    · obtain ⟨-, hassigned⟩ := Prod.mk.inj h
      have hgrants : grantsAll "Actions" "*" = true := by decide
      refine Or.inr ⟨mem_permissive_iff.2 ⟨b, List.mem_singleton_self b, rfl, ?_⟩, ?_⟩
      · rw [isPermissive, hassigned]
        exact List.any_eq_true.2 ⟨_, List.mem_singleton_self _, hgrants⟩
      · rw [hassigned]
        exact ⟨_, List.mem_singleton_self _, hgrants, namesUse_iff.2 (Or.inl (by decide))⟩
    · obtain ⟨htype, hassigned⟩ := Prod.mk.inj h
      have hcontrol : isNetworkControl b = true := by
        rw [isNetworkControl, htype]
        decide
      have hrange : "0.0.0.0/0" ∈ ranges b :=
        mem_ranges.2 ⟨"cidr", by rw [hassigned]; exact List.mem_singleton_self _, by decide⟩
      refine Or.inl ⟨mem_openRanges_iff.2 ⟨b, List.mem_singleton_self b, rfl, hcontrol, ?_⟩, ?_⟩
      · exact ⟨_, hrange, by decide⟩
      · exact ⟨_, hrange, by decide⟩
  refine ⟨rfl, hgaps, ?_, fun b hb => ⟨hissue b hb, ?_⟩⟩
  · simpa using congrArg List.length hfound
  · -- without terms and codes every block with an issue is kept
    exact ((hkeeps b (hissue b hb)).2 hb).2 ⟨rfl, rfl⟩

/-- **A grant to everybody is a finding and no issue**: the policy is reported,
    there is a gap for it, and a survey for issues leaves it out. -/
theorem principal_is_no_issue :
    let text := "resource \"aws_sns_topic_policy\" \"alerts\" \x7b\n  principal = \"*\"\n\x7d\n"
    let found := (BlockScanner.resources []).scan "main.tf" text
    found.map (·.canonicalReference) = ["aws_sns_topic_policy.alerts"] ∧
      (analyzeAccess found).permissive = ["aws_sns_topic_policy.alerts"] ∧
      (securityGaps found {}).map (·.resource) = ["aws_sns_topic_policy.alerts"] ∧
      found.map Selection.hasIssues = [false] ∧
      Survey.applyMode { mode := .securityIssues } found = [] := by
  simp only [BlockScanner.scan, String.reduceToList]
  decide +kernel

end Posture

end InfraEvidence
