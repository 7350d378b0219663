/-
  InfraEvidence — lines that say nothing.

  Blank lines and comments, where the braces of a comment are balanced, can be
  put anywhere into a text: between blocks, inside of a block at any depth, and
  right before the brace that closes it.

  * `Silent`: such lines; `Silent.open?_eq_none`, `Silent.settle_eq`: they open
    no block and set nothing in one;
  * `Block.insertLine`: a block as it stands after one more line has come into
    the text;
  * `insertLine_finished`, `run_insert_open`: what a silent line does inside of
    a block, and below an opening that the lines before it leave open;
  * `scan_insert`: so the blocks of the text with a silent line are those of
    the text without it, each with the line in its place.
-/
import InfraEvidence.Proofs.Block.Opening
import InfraEvidence.Proofs.Scan.Append
import InfraEvidence.Proofs.Scan.RawText

namespace InfraEvidence

open Text

/-- A blank line, or a comment with as many braces that open as that close. -/
def Silent (line : List Char) : Prop :=
  trim line = [] ∨
    ((['#'] <+: trim line ∨ ['/', '/'] <+: trim line) ∧ line.count '{' = line.count '}')

instance (line : List Char) : Decidable (Silent line) :=
  inferInstanceAs (Decidable (_ ∨ _))

/-! ## What a silent line does not do -/

theorem isIdentifier_keyword (k : BlockKind) : IsIdentifier k.keyword.toList := by
  cases k with
  | resource => exact ⟨'r', "esource".toList, rfl, by decide, List.all_eq_true.1 (by decide)⟩
  | moduleCall => exact ⟨'m', "odule".toList, rfl, by decide, List.all_eq_true.1 (by decide)⟩
  | dataSource => exact ⟨'d', "ata".toList, rfl, by decide, List.all_eq_true.1 (by decide)⟩
  | locals => exact ⟨'l', "ocals".toList, rfl, by decide, List.all_eq_true.1 (by decide)⟩

theorem Opening.isComment_of_parse? {k : BlockKind} {s : List Char} {o : Opening}
    (h : parse? k s = some o) : isComment s = false := by
  simp only [parse?, Option.bind_eq_bind, Option.bind_eq_some_iff] at h
  obtain ⟨t, hkeyword, -⟩ := h
  rw [dropLeading?_eq_some.1 hkeyword]
  exact not_isComment_append (isIdentifier_keyword k) t

namespace Silent

variable {line : List Char}

theorem isComment_trim (h : Silent line) : isComment (trim line) = true := by
  rcases h with h | ⟨⟨t, ht⟩ | ⟨t, ht⟩, -⟩
  · rw [h]
    rfl
  · rw [← ht]
    rfl
  · rw [← ht]
    rfl

theorem braceDelta_eq (h : Silent line) : braceDelta line = 0 := by
  rcases h with h | ⟨-, h⟩
  · rw [← braceDelta_trim, h]
    rfl
  · exact braceDelta_eq_zero h

theorem open?_eq_none (h : Silent line) (sc : BlockScanner) : sc.open? line = none := by
  cases ho : sc.open? line with
  | none => rfl
  | some o =>
    have := Opening.isComment_of_parse? (BlockScanner.parse?_of_open? ho)
    rw [h.isComment_trim] at this
    contradiction

theorem settle_eq (h : Silent line) (d : Dict String) : Block.settle d (trim line) = d := by
  rw [Block.settle, if_pos h.isComment_trim]

theorem assignmentOf?_eq (h : Silent line) : Block.assignmentOf? (trim line) = none := by
  rw [Block.assignmentOf?, if_pos h.isComment_trim]

theorem dropCr (h : Silent line) : Silent (dropCr line) := by
  have hcount : ∀ c, isBlank c = false → (Text.dropCr line).count c = line.count c := by
    intro c hc
    rw [← count_trim hc, trim_dropCr, count_trim hc]
  unfold Silent
  rw [trim_dropCr, hcount _ (by decide), hcount _ (by decide)]
  exact h

end Silent

/-! ## One more line -/

/-- The block as it stands after `line` has come into its text as the line with
    the number `p`. -/
def Block.insertLine (p : Nat) (line : List Char) (b : Block) : Block :=
  { b with
    firstLine := if p ≤ b.firstLine then b.firstLine + 1 else b.firstLine
    lastLine := if p ≤ b.lastLine then b.lastLine + 1 else b.lastLine
    rawText :=
      if b.firstLine < p ∧ p ≤ b.lastLine then
        String.ofList (unlines ((lines b.rawText.toList).insertIdx (p - b.firstLine) line))
      else b.rawText }

theorem Block.insertLine_of_lt {p : Nat} {b : Block} (hle : b.firstLine ≤ b.lastLine)
    (h : b.lastLine < p) (line : List Char) : b.insertLine p line = b := by
  rw [insertLine, if_neg (by omega), if_neg (by omega), if_neg (by omega)]

theorem Block.insertLine_of_le {p : Nat} {b : Block} (hle : b.firstLine ≤ b.lastLine)
    (h : p ≤ b.firstLine) (line : List Char) : b.insertLine p line = b.movedDown 1 := by
  rw [insertLine, if_pos h, if_pos (by omega), if_neg (by omega), movedDown]

theorem insertIdx_append {α : Type} (as bs : List α) (x : α) :
    (as ++ bs).insertIdx as.length x = as ++ x :: bs := by
  induction as with
  | nil => exact List.insertIdx_zero
  | cons a as ih => rw [List.cons_append, List.length_cons, List.insertIdx_succ_cons, ih,
      List.cons_append]

namespace BlockScanner

variable {sc : BlockScanner} {file : String}

/-- Lines without line feeds and carriage returns. -/
def Plain (ls : List (List Char)) : Prop := ∀ l ∈ ls, '\n' ∉ l ∧ '\r' ∉ l

theorem Plain.map_dropCr {ls : List (List Char)} (h : Plain ls) : ls.map dropCr = ls := by
  rw [List.map_congr_left (g := id), List.map_id]
  exact fun l hl => dropCr_of_getLast fun hlast => (h l hl).2 (List.mem_of_getLast? hlast)

theorem Plain.lines_unlines {ls : List (List Char)} (h : Plain ls) : lines (unlines ls) = ls := by
  rw [lines_unlines_eq fun l hl => (h l hl).1, h.map_dropCr]

/-- **A silent line inside of a block** stands in its text and does nothing else. -/
theorem insertLine_finished {line : List Char} (hline : Silent line) (o : Opening) (n : Nat)
    {l : List Char} {front back : List (List Char)} (hplain : Plain (l :: front ++ back))
    (hback : back ≠ []) :
    (sc.finished file o n (l :: front ++ back)).insertLine (n + (l :: front).length) line =
      sc.finished file o n (l :: front ++ line :: back) := by
  have hlen := List.length_pos_iff.2 hback
  have hbody : front ++ back ≠ [] := List.append_ne_nil_of_right_ne_nil _ hback
  have hbody' : front ++ line :: back ≠ [] := by simp
  have hraw : lines (sc.finished file o n (l :: front ++ back)).rawText.toList =
      l :: front ++ back := by
    rw [finished, record, String.toList_ofList, hplain.lines_unlines]
  have hsettings : ((front ++ line :: back).map trim).foldl Block.settle Dict.empty =
      ((front ++ back).map trim).foldl Block.settle Dict.empty := by
    simp [hline.settle_eq]
  have hassign : ((front ++ line :: back).map trim).filterMap Block.assignmentOf? =
      ((front ++ back).map trim).filterMap Block.assignmentOf? := by
    simp [hline.assignmentOf?_eq]
  have htext : (l :: (front ++ back)).insertIdx (l :: front).length line =
      l :: (front ++ line :: back) := insertIdx_append (l :: front) back line
  have hplace : n + (l :: front).length - n = (l :: front).length := Nat.add_sub_cancel_left _ _
  have hafter : ¬ n + (l :: front).length ≤ n := by simp
  have hinside : n + (l :: front).length ≤ n + ((l :: (front ++ back)).length - 1) := by
    simp only [List.length_cons, List.length_append]
    omega
  have hlast : n + ((l :: (front ++ back)).length - 1) + 1 =
      n + ((l :: (front ++ line :: back)).length - 1) := by
    simp only [List.length_cons, List.length_append]
    omega
  rw [Block.insertLine, hraw]
  simp only [finished, record, List.cons_append, bodyOf_cons hbody, bodyOf_cons hbody']
  rw [hsettings, hassign, hplace, htext, if_neg hafter, if_pos hinside,
    if_pos ⟨Nat.lt_of_not_le hafter, hinside⟩, hlast]

/-! ## Blocks above and below the line -/

/-- The blocks above the line stay where they are. -/
theorem run_above_line {n p : Nat} {ls : List (List Char)} (h : n + ls.length ≤ p)
    (line : List Char) :
    (sc.run file n .seeking ls).2.map (Block.insertLine p line) =
      (sc.run file n .seeking ls).2 := by
  rw [List.map_congr_left (g := id), List.map_id]
  intro b hb
  obtain ⟨-, hle, hlt⟩ := run_bounds hb
  exact Block.insertLine_of_lt hle (Nat.lt_of_lt_of_le hlt h) line

/-- The blocks below the line are found one line further down. -/
theorem run_below_line {p n : Nat} (h : p ≤ n) (ls : List (List Char)) (line : List Char) :
    (sc.run file (n + 1) .seeking ls).2 =
      (sc.run file n .seeking ls).2.map (Block.insertLine p line) := by
  rw [run_add]
  refine List.map_congr_left fun b hb => ?_
  obtain ⟨hle, hle', -⟩ := run_bounds hb
  exact (Block.insertLine_of_le hle' (Nat.le_trans h hle) line).symm

/-! ## Scanning -/

variable {line : List Char} (hline : Silent line)
include hline

/-- **A silent line after an opening that the lines before it leave open.** -/
theorem run_insert_open {o : Opening} {l : List Char} {body after : List (List Char)}
    (ho : sc.open? l = some o) (hs : StaysOpen 0 (l :: body)) (hplain : Plain (l :: body ++ after))
    (n : Nat) :
    (sc.run file n .seeking (l :: body ++ line :: after)).2 =
      (sc.run file n .seeking (l :: body ++ after)).2.map
        (Block.insertLine (n + (l :: body).length) line) := by
  have hpos := hs.pos (List.cons_ne_nil _ _)
  rcases staysOpen_or_closes (0 + braceSum (l :: body)) after with h | ⟨back, rest, rfl, h⟩
  · -- the block is never closed, with the line or without it
    have hopen := hs.append h
    have hopen' := hs.append (h.cons_level hpos hline.braceDelta_eq)
    rw [List.cons_append] at hopen hopen' ⊢
    rw [List.cons_append, run_pending ho hopen, run_pending ho hopen']
    rfl
  · -- the line stands in the block, and everything after the block moves down
    have hback := h.ne_nil
    have hclosed := (closes_append hback).2 ⟨hs, h⟩
    have hclosed' := (closes_append (List.cons_ne_nil line back)).2
      ⟨hs, h.cons_level hpos hline.braceDelta_eq⟩
    have hplain' : Plain (l :: body ++ back) := by
      intro x hx
      rw [← List.append_assoc] at hplain
      exact hplain x (List.mem_append_left _ hx)
    have hblock :
        (sc.finished file o n (l :: body ++ back)).insertLine (n + (l :: body).length) line =
        sc.finished file o n (l :: body ++ line :: back) :=
      insertLine_finished hline o n hplain' hback
    have hlen : n + (l :: (body ++ line :: back)).length =
        n + (l :: (body ++ back)).length + 1 := by
      simp only [List.length_cons, List.length_append]
      omega
    have hbelow : n + (l :: body).length ≤ n + (l :: (body ++ back)).length := by
      simp only [List.length_cons, List.length_append]
      omega
    have hshape : l :: body ++ line :: (back ++ rest) = l :: (body ++ line :: back) ++ rest := by
      simp
    have hshape' : l :: body ++ (back ++ rest) = l :: (body ++ back) ++ rest := by
      simp
    rw [List.cons_append] at hclosed hclosed'
    rw [hshape, hshape', run_layout_block ho hclosed', run_layout_block ho hclosed, hlen,
      run_below_line hbelow rest line, List.map_cons]
    exact congrArg (· :: _) hblock.symm

/-- **A silent line anywhere in the lines** leaves the blocks as they are and in
    their order; those around it have it in their text, and those below it move
    down. -/
theorem run_insert {before after : List (List Char)} (hplain : Plain (before ++ after)) (n : Nat) :
    (sc.run file n .seeking (before ++ line :: after)).2 =
      (sc.run file n .seeking (before ++ after)).2.map
        (Block.insertLine (n + before.length) line) := by
  obtain ⟨as, tail, rfl, hend, htail⟩ := exists_tail sc before
  have htail : (sc.run file (n + as.length) .seeking (tail ++ line :: after)).2 =
      (sc.run file (n + as.length) .seeking (tail ++ after)).2.map
        (Block.insertLine (n + (as ++ tail).length) line) := by
    rcases htail with rfl | ⟨l, o, body, rfl, ho, hs⟩
    · rw [List.append_nil, List.nil_append, List.nil_append,
        run_layout_skip (hline.open?_eq_none sc), run_below_line (Nat.le_refl _)]
    · have hplain' : Plain (l :: body ++ after) := by
        intro x hx
        rw [List.append_assoc] at hplain
        exact hplain x (List.mem_append_right _ hx)
      rw [List.length_append, ← Nat.add_assoc]
      exact run_insert_open hline ho hs hplain' (n + as.length)
  have habove :
      (sc.run file n .seeking as).2.map (Block.insertLine (n + (as ++ tail).length) line) =
      (sc.run file n .seeking as).2 := by
    refine run_above_line ?_ line
    rw [List.length_append]
    omega
  have hsplit : ∀ ls, (sc.run file n .seeking (as ++ ls)).2 =
      (sc.run file n .seeking as).2 ++ (sc.run file (n + as.length) .seeking ls).2 := by
    intro ls
    rw [run_append, hend]
  rw [List.append_assoc, List.append_assoc, hsplit, hsplit, htail, List.map_append, habove]

/-- **A line that says nothing adds nothing.**  Where lines are a text without
    carriage returns, a blank line or a comment of balanced braces between any
    two of them leaves all blocks, in their order, with all they have; it moves
    those below it one line down, and stands in the text of the one around it. -/
theorem scan_insert {before after : List (List Char)} (hplain : Plain (before ++ after))
    (hfeed : '\n' ∉ line) :
    sc.scan file (String.ofList (unlines (before ++ line :: after))) =
      (sc.scan file (String.ofList (unlines (before ++ after)))).map
        (Block.insertLine (before.length + 1) (dropCr line)) := by
  obtain ⟨hbefore, hafter⟩ := List.forall_mem_append.1 hplain
  have hfeeds : ∀ l ∈ before ++ line :: after, '\n' ∉ l := by
    intro l hl
    rcases List.mem_append.1 hl with hl | hl
    · exact (hbefore l hl).1
    rcases List.mem_cons.1 hl with rfl | hl
    · exact hfeed
    · exact (hafter l hl).1
  have hlines : lines (unlines (before ++ line :: after)) = before ++ dropCr line :: after := by
    rw [lines_unlines_eq hfeeds, List.map_append, List.map_cons, Plain.map_dropCr hbefore,
      Plain.map_dropCr hafter]
  rw [scan_eq_run, scan_eq_run, String.toList_ofList, String.toList_ofList, hplain.lines_unlines,
    hlines, run_insert hline.dropCr hplain, Nat.add_comm 1]

omit hline

/-- A comment that would be an assignment and a note, inside of a nested block. -/
theorem scan_insert_comment :
    let before := ["resource \"aws_security_group\" \"web\" \x7b",
      "  ingress \x7b"].map String.toList
    let line := "\t// security_config = \x7b policy \x7d\r".toList
    let after := ["    port = 443", "  \x7d", "\x7d", "",
      "resource \"aws_vpc\" \"main\" \x7b \x7d"].map String.toList
    let text := String.ofList (unlines (before ++ after))
    let text' := String.ofList (unlines (before ++ line :: after))
    Silent line ∧ Plain (before ++ after) ∧ '\n' ∉ line ∧
      (resources []).scan "main.tf" text' =
        ((resources []).scan "main.tf" text).map (Block.insertLine 3 line.dropLast) ∧
      ((resources []).scan "main.tf" text').map
          (fun b => (b.name, b.lineRange, b.settings.entries)) =
        [("web", "1-6", [("port", "443")]), ("main", "8-8", [])] := by
  intro before line after text text'
  have hline : Silent line := by decide
  have hplain : Plain (before ++ after) := by
    unfold Plain
    decide
  have hfeed : '\n' ∉ line := by decide
  have hscan : (resources []).scan "main.tf" text' =
      ((resources []).scan "main.tf" text).map (Block.insertLine 3 line.dropLast) :=
    scan_insert hline hplain hfeed
  refine ⟨hline, hplain, hfeed, hscan, ?_⟩
  rw [hscan]
  decide +kernel

end BlockScanner

end InfraEvidence
