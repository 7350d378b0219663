/-
  InfraEvidence — scanning one text after another.

  * `Block.movedDown`: a block some lines further down;
  * `run_add`: where its lines are counted from makes no other difference to a
    scan that begins outside of blocks;
  * `run_eq_seeking_iff`: it ends there if every opening lies in a block;
  * `scan_append`: so the scan of two texts is the scan of the one and, if that
    leaves no block open, the scan of the other.
-/
import InfraEvidence.Proofs.Scan.Narrowing
import InfraEvidence.Proofs.Text.LineEnds

namespace InfraEvidence

open Text

/-- The block as it stands below `k` more lines. -/
def Block.movedDown (k : Nat) (b : Block) : Block :=
  { b with firstLine := b.firstLine + k, lastLine := b.lastLine + k }

namespace BlockScanner

variable {sc : BlockScanner} {file : String}

theorem finished_add (o : Opening) (n k : Nat) (span : List (List Char)) :
    sc.finished file o (n + k) span = (sc.finished file o n span).movedDown k := by
  have hlast : n + k + (span.length - 1) = n + (span.length - 1) + k := by omega
  simp only [finished, record, Block.movedDown, hlast]

/-- **The number of the first line moves the blocks and does nothing else.** -/
theorem run_add (n k : Nat) (ls : List (List Char)) :
    (sc.run file (n + k) .seeking ls).2 =
      (sc.run file n .seeking ls).2.map (Block.movedDown k) := by
  have hl := layout sc ls
  induction hl generalizing n with
  | nil => rfl
  | skip h _ ih =>
    rw [run_layout_skip h, run_layout_skip h, Nat.add_right_comm]
    exact ih (n + 1)
  | block ho hc _ ih =>
    rw [run_layout_block ho hc, run_layout_block ho hc, List.map_cons, Nat.add_right_comm,
      finished_add, ih]
  | tail ho h =>
    rw [run_pending ho h, run_pending ho h]
    rfl

theorem OpensAt.le_length {ls : List (List Char)} {i : Nat} (h : sc.OpensAt ls i) :
    i ≤ ls.length := by
  obtain ⟨hpos, l, o, hl, -⟩ := h
  obtain ⟨hlt, -⟩ := List.getElem?_eq_some_iff.1 hl
  omega

/-- **A run ends outside of blocks exactly if every opening lies in a block.** -/
theorem run_eq_seeking_iff {ls : List (List Char)} :
    (sc.run file 1 .seeking ls).1 = .seeking ↔
      ∀ i, sc.OpensAt ls i →
        ∃ b ∈ (sc.run file 1 .seeking ls).2, b.firstLine ≤ i ∧ i ≤ b.lastLine := by
  constructor
  · rintro hend i ⟨hpos, l, o, hl, ho⟩
    obtain ⟨b, hb, h1, h2⟩ := run_covered hend hl ho
    exact ⟨b, hb, by omega, by omega⟩
  · intro hcovered
    obtain ⟨as, tail, rfl, hend, rfl | ht⟩ := exists_tail sc ls
    · rw [List.append_nil]
      exact hend file 1
    · -- the opening that begins the tail lies in no block, since all of them end before
      exfalso
      obtain ⟨b, hb, -, hlast⟩ := hcovered _ ht.openFrom.opens
      rw [run_append, hend file 1, ht.run_eq_nil, List.append_nil] at hb
      have := (run_bounds hb).2.2
      omega

/-- **A scan goes over one text, then over the other.**  Where the first one is
    made of whole lines, its blocks come first; and if none of its openings is
    left outside of them, the blocks of the second text follow, as many lines
    below. -/
theorem scan_append {s : String} (hs : s = "" ∨ s.toList.getLast? = some '\n') (t : String) :
    sc.scan file s <+: sc.scan file (s ++ t) ∧
    ((∀ i, sc.OpensAt (lines s.toList) i →
        ∃ b ∈ sc.scan file s, b.firstLine ≤ i ∧ i ≤ b.lastLine) →
      sc.scan file (s ++ t) =
        sc.scan file s ++ (sc.scan file t).map (Block.movedDown (lines s.toList).length)) := by
  have hs' : s.toList = [] ∨ s.toList.getLast? = some '\n' := hs.imp_left fun e => by rw [e]; rfl
  have hlines : lines (s ++ t).toList = lines s.toList ++ lines t.toList := by
    rw [String.toList_append, lines_append_of_ends hs']
  rw [scan_eq_run, scan_eq_run, scan_eq_run, hlines, run_append]
  refine ⟨List.prefix_append _ _, fun hcovered => ?_⟩
  rw [run_eq_seeking_iff.2 hcovered, run_add]

/-- A bucket on one line, and a role below it. -/
theorem scan_append_role :
    let s := "resource \"aws_s3_bucket\" \"logs\" \x7b acl = 1 \x7d\n\n"
    let t := "resource \"aws_iam_role\" \"admin\" \x7b\n  name = 2\n\x7d\n"
    s.toList.getLast? = some '\n' ∧
      (∀ i, (resources []).OpensAt (lines s.toList) i →
        ∃ b ∈ (resources []).scan "main.tf" s, b.firstLine ≤ i ∧ i ≤ b.lastLine) ∧
      ((resources []).scan "main.tf" (s ++ t)).map (fun b => (b.name, b.lineRange)) =
        [("logs", "1-1"), ("admin", "3-5")] := by
  intro s t
  have hs : s.toList.getLast? = some '\n' := by decide
  have hcovered : ∀ i ≤ (lines s.toList).length, (resources []).OpensAt (lines s.toList) i →
      ∃ b ∈ (resources []).scan "main.tf" s, b.firstLine ≤ i ∧ i ≤ b.lastLine := by
    decide +kernel
  have hall : ∀ i, (resources []).OpensAt (lines s.toList) i →
      ∃ b ∈ (resources []).scan "main.tf" s, b.firstLine ≤ i ∧ i ≤ b.lastLine :=
    fun i hi => hcovered i hi.le_length hi
  refine ⟨hs, hall, ?_⟩
  rw [(scan_append (Or.inr hs) t).2 hall]
  decide +kernel

end BlockScanner

end InfraEvidence
