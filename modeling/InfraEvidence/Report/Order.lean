/-
  InfraEvidence — the order of blocks in reports.

  * `Report.inOrder`: blocks by type and name, ties in the order given;
  * `Report.byType`: the blocks of each type, in the order given;
  * `Report.shownSettings`: the settings of a block that are not empty;
  * `Report.perm_inOrder`: a report has exactly the given blocks;
  * `Report.infix_concat`, `Report.infix_join`: joined texts have each piece.
-/
import InfraEvidence.Block.Basic

namespace InfraEvidence

namespace Report

/-- The block `a` may come before the block `b`. -/
def comesBefore (a b : Block) : Bool := a.type < b.type || (a.type == b.type && a.name ≤ b.name)

/-- Blocks by type and name, ties in the order given. -/
def inOrder (bs : List Block) : List Block := bs.mergeSort comesBefore

/-- A report has the given blocks, each as often. -/
theorem perm_inOrder (bs : List Block) : (inOrder bs).Perm bs := List.mergeSort_perm bs _

/-- The blocks of each type, in the order given. -/
def byType (bs : List Block) : Dict (List Block) :=
  bs.foldl (fun d b => d.addTo b.type (· ++ [b]) [b]) Dict.empty

/-- The settings of a block that are not empty. -/
def shownSettings (b : Block) : List (String × String) :=
  b.settings.entries.filter fun e => e.2 != ""

/-- Some texts one after the other. -/
def concat (pieces : List String) : String := pieces.foldl (· ++ ·) ""

theorem concat_cons (piece : String) (pieces : List String) :
    concat (piece :: pieces) = piece ++ concat pieces := String.join_cons

theorem concat_append (pieces later : List String) :
    concat (pieces ++ later) = concat pieces ++ concat later := String.join_append

theorem toList_concat (pieces : List String) :
    (concat pieces).toList = pieces.flatMap String.toList := String.toList_join

/-- Each piece stands in the text. -/
theorem infix_concat {piece : String} {pieces : List String} (h : piece ∈ pieces) :
    piece.toList <:+: (concat pieces).toList := by
  rw [toList_concat, List.flatMap_def]
  exact List.infix_of_mem_flatten (List.mem_map_of_mem h)

/-- Some texts with a separator between two neighbours. -/
def join (separator : String) (pieces : List String) : String :=
  String.intercalate separator pieces

theorem infix_intercalate {α : Type} {separator p : List α} {pieces : List (List α)}
    (h : p ∈ pieces) : p <:+: separator.intercalate pieces := by
  induction pieces with
  | nil => exact absurd h List.not_mem_nil
  | cons q pieces ih =>
    cases pieces with
    | nil => simp [List.mem_singleton.1 h]
    | cons r pieces =>
      rw [List.intercalate_cons_cons, List.append_assoc]
      rcases List.mem_cons.1 h with rfl | h
      · exact (List.prefix_append _ _).isInfix
      · exact (ih h).trans ⟨q ++ separator, [], by simp⟩

/-- So does each piece in a text with separators. -/
theorem infix_join {separator piece : String} {pieces : List String} (h : piece ∈ pieces) :
    piece.toList <:+: (join separator pieces).toList := by
  rw [join, String.toList_intercalate]
  exact infix_intercalate (List.mem_map_of_mem h)

end Report

end InfraEvidence
