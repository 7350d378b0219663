/-
  InfraEvidence — what a selection by terms keeps.

  * `Selection.admits`: one of the terms keeps a block, or there are no terms;
  * `Selection.keep_eq_filter`: a selection looks at one block at a time;
  * `Selection.keep_sublist`: it takes blocks away and does nothing else.
-/
import InfraEvidence.Selection

namespace InfraEvidence.Selection

/-- The terms keep the block. -/
def admits (test : Block → List Char → Bool) (texts : List String) (b : Block) : Bool :=
  (terms texts).isEmpty || (terms texts).any (test b)

variable {test : Block → List Char → Bool}

theorem admits_of_terms_eq_nil {texts : List String} (h : terms texts = []) (b : Block) :
    admits test texts b = true := by
  rw [admits, h]
  rfl

theorem keep_eq_filter (texts : List String) (bs : List Block) :
    keep test texts bs = bs.filter (admits test texts) := by
  unfold keep
  split
  · next h =>
    refine (List.filter_eq_self.2 fun b _ => ?_).symm
    exact admits_of_terms_eq_nil (List.isEmpty_iff.1 h) b
  · next h =>
    refine List.filter_congr fun b _ => ?_
    rw [admits, Bool.eq_false_iff.2 h, Bool.false_or]

theorem keep_sublist (texts : List String) (bs : List Block) :
    (keep test texts bs).Sublist bs := by
  rw [keep_eq_filter]
  exact List.filter_sublist

end InfraEvidence.Selection
