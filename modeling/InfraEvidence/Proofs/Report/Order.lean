/-
  InfraEvidence — the order of reports.

  * `Report.comesBefore_trans`, `Report.comesBefore_total`: blocks are compared
    by their types and then by their names;
  * `Report.inOrder_eq_of_perm`: blocks that differ in type or name are
    reported in the same order, however they are given;
  * `Reporter.render_eq_of_perm`: and so is the whole report.
-/
import InfraEvidence.Report.Reporter
import Mathlib.Data.List.Nodup

namespace InfraEvidence

namespace Report

/-- What blocks are ordered by. -/
def key (b : Block) : String × String := (b.type, b.name)

theorem comesBefore_iff {a b : Block} :
    comesBefore a b = true ↔ a.type < b.type ∨ a.type = b.type ∧ a.name ≤ b.name := by
  simp [comesBefore]

theorem comesBefore_trans {a b c : Block} (hab : comesBefore a b = true)
    (hbc : comesBefore b c = true) : comesBefore a c = true := by
  rw [comesBefore_iff] at *
  rcases hab with hab | ⟨hab, hab'⟩
  · rcases hbc with hbc | ⟨hbc, -⟩
    · exact Or.inl (String.lt_trans hab hbc)
    · exact Or.inl (hbc ▸ hab)
  · rcases hbc with hbc | ⟨hbc, hbc'⟩
    · exact Or.inl (hab ▸ hbc)
    · exact Or.inr ⟨hab.trans hbc, String.le_trans hab' hbc'⟩

theorem comesBefore_total (a b : Block) : (comesBefore a b || comesBefore b a) = true := by
  rw [Bool.or_eq_true, comesBefore_iff, comesBefore_iff]
  by_cases hab : a.type < b.type
  · exact Or.inl (Or.inl hab)
  by_cases hba : b.type < a.type
  · exact Or.inr (Or.inl hba)
  have heq := Dict.key_eq hab hba
  rcases String.le_total a.name b.name with h | h
  · exact Or.inl (Or.inr ⟨heq, h⟩)
  · exact Or.inr (Or.inr ⟨heq.symm, h⟩)

theorem key_eq_of_comesBefore {a b : Block} (hab : comesBefore a b = true)
    (hba : comesBefore b a = true) : key a = key b := by
  rw [comesBefore_iff] at hab hba
  rcases hab with hab | ⟨htype, hab⟩
  · rcases hba with hba | ⟨hba, -⟩
    · exact absurd (String.lt_trans hab hba) (String.lt_irrefl _)
    · exact absurd (hba ▸ hab) (String.lt_irrefl _)
  · rcases hba with hba | ⟨-, hba⟩
    · exact absurd (htype ▸ hba) (String.lt_irrefl _)
    · exact Prod.ext htype (String.le_antisymm hab hba)

theorem inOrder_sorted (bs : List Block) : (inOrder bs).Pairwise (comesBefore · · = true) :=
  @List.pairwise_mergeSort _ comesBefore (fun _ _ _ => comesBefore_trans) comesBefore_total _

/-- **Blocks without ties** are reported in one order. -/
theorem inOrder_eq_of_perm {as bs : List Block} (h : as.Perm bs) (hkeys : (as.map key).Nodup) :
    inOrder as = inOrder bs := by
  have hperm : (inOrder as).Perm (inOrder bs) :=
    ((perm_inOrder as).trans h).trans (perm_inOrder bs).symm
  refine hperm.eq_of_pairwise (fun a b ha hb hab hba => ?_) (inOrder_sorted as) (inOrder_sorted bs)
  have hb : b ∈ inOrder as := hperm.mem_iff.2 hb
  rw [(perm_inOrder as).mem_iff] at ha hb
  exact List.inj_on_of_nodup_map hkeys ha hb (key_eq_of_comesBefore hab hba)

end Report

theorem Reporter.render_eq_of_perm (reporter : Reporter) (format : EvidenceFormat)
    {as bs : List Block} (h : as.Perm bs) (hkeys : (as.map Report.key).Nodup) :
    reporter.render format as = reporter.render format bs := by
  rw [render, render, h.isEmpty_eq, Report.inOrder_eq_of_perm h hkeys]

end InfraEvidence
