/-
  InfraEvidence — the order in which blocks are given to a report.

  * `Report.inOrder_eq_of_ties`: only the order of blocks with the same type and
    name counts for the order of a report;
  * `Report.comesBefore_iff_bytes`: which is an order by bytes;
  * `Reporter.render_of_ties`: so reports are the same however else the blocks are
    given.
-/
import InfraEvidence.Proofs.Report.Listed
import InfraEvidence.Proofs.Text.Utf8

namespace InfraEvidence

open Text

namespace Report

/-- **Only the order of ties counts.** -/
theorem inOrder_eq_of_ties {as bs : List Block}
    (h : ∀ k, as.filter (key · = k) = bs.filter (key · = k)) : inOrder as = inOrder bs := by
  refine eq_of_ties comesBefore_total (inOrder_sorted as) (inOrder_sorted bs) fun a => ?_
  have htied : tied comesBefore a = fun b => decide (key b = key a) := funext (tied_key a)
  rw [htied]
  calc (inOrder as).filter (key · = key a)
      = as.filter (key · = key a) := filter_key_inOrder as (key a)
    _ = bs.filter (key · = key a) := h (key a)
    _ = (inOrder bs).filter (key · = key a) := (filter_key_inOrder bs (key a)).symm

/-- Blocks are compared by the bytes of their types, then of their names. -/
theorem comesBefore_iff_bytes {a b : Block} :
    comesBefore a b = true ↔ bytesOf a.type < bytesOf b.type ∨
      a.type = b.type ∧ bytesOf a.name ≤ bytesOf b.name := by
  rw [comesBefore_iff, bytesOf_lt_iff, bytesOf_le_iff]

end Report

/-- **Reports do not depend on the order in which blocks are given**, ties aside:
    the same blocks, where those with the same type and name come in the same
    order, have the same report in every format.  For the order of a report has
    exactly the blocks given, by the bytes of their types and then of their names,
    ties in the order given. -/
theorem Reporter.render_of_ties {as bs : List Block} (hperm : as.Perm bs)
    (hties : ∀ k, as.filter (Report.key · = k) = bs.filter (Report.key · = k)) :
    (∀ (reporter : Reporter) (format : EvidenceFormat),
      reporter.render format as = reporter.render format bs) ∧
    (Report.inOrder as).Perm as ∧
    (Report.inOrder as).Pairwise (fun a b => bytesOf a.type < bytesOf b.type ∨
      a.type = b.type ∧ bytesOf a.name ≤ bytesOf b.name) ∧
    ∀ k, (Report.inOrder as).filter (Report.key · = k) = as.filter (Report.key · = k) := by
  refine ⟨fun reporter format => ?_, Report.perm_inOrder as, ?_, Report.filter_key_inOrder as⟩
  · rw [render, render, hperm.isEmpty_eq, Report.inOrder_eq_of_ties hties]
  · exact (Report.inOrder_sorted as).imp Report.comesBefore_iff_bytes.1

/-- The locals of two files, which are tied, and a role. -/
theorem Reporter.render_of_ties_locals :
    let first := Block.starting "b.tf" "locals" "local_values" 1
    let second := Block.starting "a.tf" "locals" "local_values" 1
    let role := Block.starting "a.tf" "aws_iam_role" "admin" 4
    [first, role, second].Perm [role, first, second] ∧
      (∀ k, [first, role, second].filter (Report.key · = k) =
        [role, first, second].filter (Report.key · = k)) ∧
      Report.inOrder [first, role, second] = [role, first, second] ∧
      ∀ (reporter : Reporter) (format : EvidenceFormat),
        reporter.render format [first, role, second] =
          reporter.render format [role, first, second] := by
  intro first second role
  have hperm : [first, role, second].Perm [role, first, second] := .swap role first [second]
  have hties : ∀ k, [first, role, second].filter (Report.key · = k) =
      [role, first, second].filter (Report.key · = k) := by
    intro k
    by_cases hk : Report.key role = k
    · subst hk
      decide
    · simp [List.filter_cons, hk]
  have hsorted : Report.inOrder [role, first, second] = [role, first, second] :=
    List.mergeSort_of_pairwise (by decide)
  exact ⟨hperm, hties, (Report.inOrder_eq_of_ties hties).trans hsorted,
    (render_of_ties hperm hties).1⟩

end InfraEvidence
