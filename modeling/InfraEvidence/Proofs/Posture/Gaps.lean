/-
  InfraEvidence — the gaps of a collection, block by block.

  * `Posture.gapCount`: how many gaps of a kind a block has: one if its data is
    not encrypted, one if it grants everything, and one for each open range;
  * `Posture.summaries_securityGaps`: the gaps of a collection are those of its
    blocks, kind after kind and in the order of the blocks;
  * `Posture.ofAnalyses_eq`: the findings of the three analyses, in whatever order
    these come, are those of the collection;
  * `Posture.gaps_exact`: so the report for terminals lists the gaps of the
    collection.
-/
import InfraEvidence.Proofs.Posture.Batches
import InfraEvidence.Proofs.Posture.Findings
import InfraEvidence.Report.Terminal

namespace InfraEvidence

open Text

namespace Posture

/-! ## Single blocks -/

/-- The setting encrypts: a flag about encryption is on, or a key is named. -/
def Encrypts (key value : String) : Prop :=
  (contains "encrypt".toList (lowered key) = true ∧
      (lowered value = "true".toList ∨ lowered value = "enabled".toList)) ∨
    contains "kms_key".toList (lowered key) = true ∨
    contains "encryption_key".toList (lowered key) = true

instance (key value : String) : Decidable (Encrypts key value) :=
  inferInstanceAs (Decidable ((_ ∧ (_ ∨ _)) ∨ _ ∨ _))

theorem encryptionMethodOf?_eq_none_iff {key value : String} :
    encryptionMethodOf? key value = none ↔ ¬ Encrypts key value := by
  simp only [encryptionMethodOf?, Encrypts, containsAny, List.any_cons, List.any_nil, Bool.or_false]
  split <;> simp_all

theorem encryptionMethod?_eq_none_iff {b : Block} :
    encryptionMethod? b = none ↔ ∀ e ∈ b.settings.entries, ¬ Encrypts e.1 e.2 := by
  simp only [encryptionMethod?, List.findSome?_eq_none_iff, encryptionMethodOf?_eq_none_iff]

/-- The assignment grants everything: its value is `*`, and its key is about
    actions, resources or principals. -/
def GrantsAll (key value : String) : Prop :=
  value = "*" ∧ ∃ word ∈ ["action", "resource", "principal"],
    contains word.toList (lowered key) = true

instance (key value : String) : Decidable (GrantsAll key value) :=
  inferInstanceAs (Decidable (_ ∧ ∃ word ∈ _, _))

theorem grantsAll_iff {key value : String} : grantsAll key value = true ↔ GrantsAll key value := by
  rw [grantsAll, Bool.and_eq_true, beq_iff_eq, containsAny, List.any_eq_true]
  rfl

/-- How many gaps of a kind a block has. -/
def gapCount (b : Block) : GapKind → Nat
  | .encryption =>
    if Control.requiresEncryption b.type = true ∧ ∀ e ∈ b.settings.entries, ¬ Encrypts e.1 e.2
    then 1 else 0
  | .access => if ∃ p ∈ b.assignments, GrantsAll p.1 p.2 then 1 else 0
  | .network =>
    if isNetworkControl b then
      b.assignments.countP fun p => isRangeKey p.1 && decide (AdmitsEveryone p.2)
    else 0

theorem gapCount_encryption (b : Block) :
    gapCount b .encryption = if lacksEncryption b then 1 else 0 := by
  have hiff : lacksEncryption b = true ↔
      Control.requiresEncryption b.type = true ∧ ∀ e ∈ b.settings.entries, ¬ Encrypts e.1 e.2 := by
    rw [lacksEncryption, Bool.and_eq_true, Option.isNone_iff_eq_none, encryptionMethod?_eq_none_iff,
      and_comm]
  rw [gapCount, if_congr hiff rfl rfl]

theorem gapCount_access (b : Block) : gapCount b .access = if isPermissive b then 1 else 0 := by
  have hiff : isPermissive b = true ↔ ∃ p ∈ b.assignments, GrantsAll p.1 p.2 := by
    simp only [isPermissive, List.any_eq_true, grantsAll_iff]
  rw [gapCount, if_congr hiff rfl rfl]

theorem references_filter_singleton (test : Block → Bool) (b : Block) :
    references ([b].filter test) =
      List.replicate (if test b then 1 else 0) b.canonicalReference := by
  cases h : test b <;> simp [h, references]

/-- **The findings of a block** are as many as its gaps. -/
theorem findings_singleton (b : Block) (kind : GapKind) :
    findings [b] kind = List.replicate (gapCount b kind) b.canonicalReference := by
  cases kind with
  | encryption => rw [gapCount_encryption]; exact references_filter_singleton _ b
  | access => rw [gapCount_access]; exact references_filter_singleton _ b
  | network =>
    have hopen : ∀ value, isOpenRange value = decide (AdmitsEveryone value) := fun value =>
      Bool.eq_iff_iff.2 (isOpenRange_iff.trans decide_eq_true_iff.symm)
    have hfindings : findings [b] .network = _ := rangeFindings_singleton isOpenRange b
    rw [hfindings, gapCount]
    simp only [hopen]
    split <;> rfl

/-! ## Collections -/

theorem findings_eq_flatMap (bs : List Block) (kind : GapKind) :
    findings bs kind = bs.flatMap fun b => List.replicate (gapCount b kind) b.canonicalReference := by
  induction bs with
  | nil => cases kind <;> rfl
  | cons b bs ih => rw [← List.singleton_append, findings_append, findings_singleton, ih]; rfl

/-- A gap with its severity. -/
def Gap.summary (g : Gap) : GapKind × Severity × String := (g.kind, g.kind.severity, g.resource)

/-- The gaps of one kind that the blocks have, if they are asked for. -/
def contributions (bs : List Block) (asked : Bool) (kind : GapKind) (severity : Severity) :
    List (GapKind × Severity × String) :=
  if asked then
    bs.flatMap fun b => List.replicate (gapCount b kind) (kind, severity, b.canonicalReference)
  else []

theorem summaries_gapsOf (bs : List Block) (asked : Bool) (kind : GapKind) :
    (gapsOf asked kind (findings bs kind)).map Gap.summary =
      contributions bs asked kind kind.severity := by
  cases asked with
  | false => rfl
  | true =>
    rw [findings_eq_flatMap]
    simp only [gapsOf, contributions, if_true, List.map_flatMap, List.map_replicate, Gap.summary]

/-- **The gaps of a collection** are those of its blocks. -/
theorem summaries_securityGaps (bs : List Block) (required : Requirements) :
    (securityGaps bs required).map Gap.summary =
      contributions bs required.encryption .encryption .high ++
        contributions bs required.leastPrivilege .access .medium ++
        contributions bs required.restrictedNetwork .network .high := by
  have hsplit : securityGaps bs required =
      gapsOf required.encryption .encryption (findings bs .encryption) ++
        gapsOf required.leastPrivilege .access (findings bs .access) ++
        gapsOf required.restrictedNetwork .network (findings bs .network) := rfl
  rw [hsplit, List.map_append, List.map_append, summaries_gapsOf, summaries_gapsOf,
    summaries_gapsOf]
  rfl

/-! ## The report -/

/-- Findings of different categories may be put in place in any order. -/
theorem take_comm {bs : List Block} {x y : Analysis} (hx : x ∈ analyzeAll bs)
    (hy : y ∈ analyzeAll bs) (f : Findings) : (f.take x).take y = (f.take y).take x := by
  simp only [analyzeAll, List.mem_cons, List.not_mem_nil, or_false] at hx hy
  rcases hx with rfl | rfl | rfl <;> rcases hy with rfl | rfl | rfl <;> rfl

/-- **The order of the analyses** does not matter for their findings. -/
theorem ofAnalyses_eq {bs : List Block} {as : List Analysis} (h : as.Perm (analyzeAll bs)) :
    Findings.ofAnalyses as = Findings.ofBlocks bs :=
  (h.symm.foldl_eq' (fun _ hx _ hy f => take_comm hx hy f) Findings.none).symm

theorem gapRow_injective : Function.Injective Terminal.gapRow := by
  rintro ⟨kind, resource⟩ ⟨kind', resource'⟩ h
  obtain ⟨-, hname, hresource, -⟩ : _ ∧ kind.name = kind'.name ∧ resource = resource' ∧ _ := by
    simpa [Terminal.gapRow] using h
  have hkind : kind = kind' := by
    cases kind <;> cases kind' <;> first | rfl | exact absurd hname (by decide)
  rw [hkind, hresource]

/-- **Gaps are exact.**  The gaps of a collection, with their severities, are those
    of its blocks: kind after kind, each kind if it is asked for, and in the order
    of the blocks.  And the report for terminals on the three analyses, in whatever
    order, ends with a table that has one row for each gap of the collection, in
    order, from which the gap can be told; without gaps there is no table. -/
theorem gaps_exact (bs : List Block) :
    (∀ required, (securityGaps bs required).map Gap.summary =
      contributions bs required.encryption .encryption .high ++
        contributions bs required.leastPrivilege .access .medium ++
        contributions bs required.restrictedNetwork .network .high) ∧
    (∀ as, as.Perm (analyzeAll bs) → ∀ colored,
      Terminal.render colored as = Terminal.header colored ++ Terminal.scores colored as ++
        if securityGaps bs {} = [] then ""
        else
          let rows := (securityGaps bs {}).map Terminal.gapRow
          Terminal.partTitle colored "Security Gaps" ++
            Table.render ⟨["Severity", "Category", "Resource", "Description"], rows⟩ ++ "\n") ∧
    Function.Injective Terminal.gapRow := by
  refine ⟨summaries_securityGaps bs, fun as h colored => ?_, gapRow_injective⟩
  rw [Terminal.render, ofAnalyses_eq h, Terminal.gapPart]
  simp only [List.isEmpty_iff]
  rfl

/-- A group with two open ranges and a restricted one, and a bucket. -/
def exposedBlocks : List Block :=
  [(Block.starting "main.tf" "aws_security_group" "web" 1).setAll
      [("cidr_blocks", "0.0.0.0/0"), ("cidr_blocks", "10.0.0.0/8"), ("ipv6_cidr_blocks", "::/0")],
    Block.starting "main.tf" "aws_s3_bucket" "logs" 6]

/-- With the analyses in the reverse order, there is a row for the bucket, and then
    one for each open range. -/
theorem gaps_exact_exposed :
    let as := (analyzeAll exposedBlocks).reverse
    as.Perm (analyzeAll exposedBlocks) ∧
      (securityGaps exposedBlocks {}).map Gap.summary =
        [(.encryption, .high, "aws_s3_bucket.logs"), (.network, .high, "aws_security_group.web"),
          (.network, .high, "aws_security_group.web")] ∧
      Terminal.render false as = Terminal.header false ++ Terminal.scores false as ++
        (Terminal.partTitle false "Security Gaps" ++
          Table.render ⟨["Severity", "Category", "Resource", "Description"],
            [["HIGH", "encryption", "aws_s3_bucket.logs",
                "Resource should be encrypted but encryption is not configured"],
              ["HIGH", "network", "aws_security_group.web",
                "Resource allows unrestricted network access (0.0.0.0/0)"],
              ["HIGH", "network", "aws_security_group.web",
                "Resource allows unrestricted network access (0.0.0.0/0)"]]⟩ ++ "\n") := by
  intro as
  obtain ⟨hgaps, hreport, -⟩ := gaps_exact exposedBlocks
  have hperm : as.Perm (analyzeAll exposedBlocks) := List.reverse_perm _
  have hlist : securityGaps exposedBlocks {} = [⟨.encryption, "aws_s3_bucket.logs"⟩,
      ⟨.network, "aws_security_group.web"⟩, ⟨.network, "aws_security_group.web"⟩] := by
    decide +kernel
  refine ⟨hperm, ?_, ?_⟩
  · rw [hgaps]
    decide +kernel
  · rw [hreport as hperm false, hlist]
    rfl

end Posture

end InfraEvidence
