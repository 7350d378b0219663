/-
  InfraEvidence — a block on one line, and on three.

  * `betweenBraces?_append`: what stands between the braces of a line;
  * `BlockScanner.Header`: an opening line up to the brace of its block;
  * `Header.open?_append`: it opens the same block with anything behind it;
  * `scan_oneLine`: so a block that closes on the line of its header is the
    block that has what stands between its braces on a line of its own.
-/
import InfraEvidence.Proofs.Block.Opening
import InfraEvidence.Proofs.Scan.RawText
import InfraEvidence.Proofs.Scan.Written

namespace InfraEvidence

open Text

/-! ## What stands between the braces -/

theorem Text.trim_spaces (s : List Char) : trim (' ' :: (s ++ [' '])) = trim s :=
  have hblank : allBlank [' '] = true := by decide
  trim_append_blanks hblank hblank s

/-- Between the first opening brace and a closing one at the end stands all the rest. -/
theorem Text.betweenBraces?_append {head : List Char} (h : '{' ∉ head) (inner : List Char) :
    betweenBraces? (head ++ '{' :: (inner ++ ['}'])) = some inner := by
  have hhead : ∀ c ∈ head, (c != '{') = true := by
    intro c hc
    rw [bne_iff_ne]
    rintro rfl
    exact h hc
  have hopen : (head ++ '{' :: (inner ++ ['}'])).dropWhile (· != '{') =
      '{' :: (inner ++ ['}']) := by
    rw [List.dropWhile_append_of_pos hhead, List.dropWhile_cons_of_neg (by simp)]
  have hclose : (inner ++ ['}']).reverse.dropWhile (· != '}') = '}' :: inner.reverse := by
    rw [List.reverse_append, List.reverse_singleton, List.singleton_append,
      List.dropWhile_cons_of_neg (by simp)]
  simp only [betweenBraces?, hopen, hclose, List.reverse_reverse]

namespace BlockScanner

variable {sc : BlockScanner} {file : String}

/-! ## Headers -/

/-- A line that opens a block and ends in the brace of the block, with no brace
    in its labels. -/
structure Header (sc : BlockScanner) (line : List Char) (o : Opening) : Prop where
  opens : sc.open? line = some o
  labels : '{' ∉ o.type ++ o.name ∧ '}' ∉ o.type ++ o.name
  ends : ∃ head, line = head ++ ['{'] ∧ '{' ∉ head
  lineFeed : '\n' ∉ line

namespace Header

variable {line : List Char} {o : Opening}

/-- **Up to its brace a header has no other one**, and is all of the opening. -/
theorem exists_head (h : sc.Header line o) :
    ∃ head, line = head ++ ['{'] ∧ Flat head ∧ Opening.Heads sc.kind (trimStart head) o := by
  obtain ⟨head, rfl, hbrace⟩ := h.ends
  have hparse := parse?_of_open? h.opens
  rw [trim_concat (by decide)] at hparse
  obtain ⟨head', rest, he, hheads⟩ := Opening.parse?_eq_some_iff.1 hparse
  have htrimmed : '{' ∉ trimStart head := fun hc => hbrace ((List.dropWhile_suffix _).subset hc)
  -- the brace of the opening is the one at the end
  obtain rfl : rest = [] := by
    rcases List.eq_nil_or_concat rest with rfl | ⟨rest, c, rfl⟩
    · rfl
    · rw [List.concat_eq_append, ← List.cons_append, ← List.append_assoc] at he
      obtain ⟨he, -⟩ := List.append_inj' he rfl
      exact absurd (by simp [he]) htrimmed
  obtain ⟨rfl, -⟩ := List.append_inj' he rfl
  have hkeyword : '}' ∉ sc.kind.keyword.toList := by cases sc.kind <;> decide
  have hclose : '}' ∉ trimStart head :=
    hheads.not_mem hkeyword (by decide) (by decide)
      (fun hc => h.labels.2 (List.mem_append_left _ hc))
      (fun hc => h.labels.2 (List.mem_append_right _ hc))
  refine ⟨head, rfl, ⟨hbrace, ?_, fun hc => h.lineFeed (List.mem_append_left _ hc)⟩, hheads⟩
  rw [← List.count_eq_zero, ← count_trimStart (by decide), List.count_eq_zero]
  exact hclose

theorem braceDelta_eq (h : sc.Header line o) : braceDelta line = 1 := by
  obtain ⟨head, rfl, hflat, -⟩ := h.exists_head
  rw [braceDelta_append, hflat.braceDelta_eq]
  rfl

theorem dropCr_eq (h : sc.Header line o) : dropCr line = line := by
  obtain ⟨head, rfl, -⟩ := h.ends
  exact dropCr_of_getLast (by simp)

end Header

/-! ## One line -/

/-- A header and a body that closes on the same line. -/
def joined (line body : List Char) : List Char := line ++ ' ' :: (body ++ [' ', '}'])

theorem joined_concat (head body : List Char) :
    joined (head ++ ['{']) body = head ++ '{' :: ((' ' :: (body ++ [' '])) ++ ['}']) := by
  simp [joined]

theorem lineFeed_joined {line body : List Char} (hline : '\n' ∉ line) (hbody : '\n' ∉ body) :
    '\n' ∉ joined line body := by
  simp [joined, hline, hbody]

variable {line body : List Char} {o : Opening}

/-- **A header opens the same block with a body behind it.** -/
theorem Header.open?_joined (h : sc.Header line o) (body : List Char) :
    sc.open? (joined line body) = some o := by
  obtain ⟨head, rfl, -, hheads⟩ := h.exists_head
  rw [← h.opens]
  refine open?_congr ?_
  rw [joined_concat, trim_append (by decide) (by decide), trim_concat (by decide),
    Opening.parse?_of_heads hheads, Opening.parse?_of_heads hheads]

theorem Header.bodyOf_joined (h : sc.Header line o) (body : List Char) :
    bodyOf [joined line body] = [trim body] := by
  obtain ⟨head, rfl, hflat, -⟩ := h.exists_head
  rw [bodyOf, joined_concat, betweenBraces?_append hflat.opening, Option.toList_some,
    List.map_singleton, trim_spaces]

theorem Header.closes_joined (h : sc.Header line o) (hbody : body.count '{' = body.count '}') :
    Closes 0 [joined line body] := by
  have hspace : braceDelta [' '] = 0 := by decide
  have hclose : braceDelta [' ', '}'] = -1 := by decide
  have hshape : joined line body = line ++ ([' '] ++ (body ++ [' ', '}'])) := rfl
  rw [closes_singleton, hshape, braceDelta_append, braceDelta_append, braceDelta_append,
    h.braceDelta_eq, hspace, braceDelta_eq_zero hbody, hclose]
  decide

/-! ## Three lines -/

theorem settle_brace (d : Dict String) : Block.settle d ['}'] = d := by
  have hcomment : isComment ['}'] = false := by decide
  have hnotable : isNotable ['}'] = false := by decide
  have hassign : assignment? ['}'] = none := by decide
  rw [Block.settle, hcomment, hnotable, hassign]
  rfl

/-- A closing brace on a line of its own adds nothing to a block. -/
theorem record_brace (o : Opening) (first last : Nat) (body span : List (List Char)) :
    sc.record file o first last (body ++ [['}']]) span = sc.record file o first last body span := by
  have hassign : [['}']].filterMap Block.assignmentOf? = [] := by decide
  unfold record
  rw [List.foldl_append, List.foldl_cons, List.foldl_nil, settle_brace, List.filterMap_append,
    hassign, List.append_nil]

/-- **A block on one line is the block on three.**  A header with a body of
    balanced braces and a closing brace behind it, and the same three on lines
    of their own, are one block each, and but for the last line and the text it
    is the same block. -/
theorem scan_oneLine (hline : sc.Header line o) (hfeed : '\n' ∉ body)
    (hbody : body.count '{' = body.count '}') {one three : String}
    (hone : IsMadeOf one [joined line body]) (hthree : IsMadeOf three [line, body, ['}']]) :
    ∃ b, sc.scan file one = [b] ∧
      sc.scan file three =
        [{ b with
            lastLine := 3
            rawText := String.ofList (unlines [line, dropCr body, ['}']]) }] ∧
      b.firstLine = 1 ∧ b.lastLine = 1 ∧
      b.rawText = String.ofList (unlines [joined line body]) := by
  have hlast : (joined line body).getLast? = some '}' := by
    obtain ⟨head, rfl, -⟩ := hline.ends
    rw [joined_concat, ← List.cons_append, ← List.append_assoc, List.getLast?_concat]
  have hlines : lines one.toList = [joined line body] := by
    have hone' : IsMadeOf one ([] ++ [joined line body]) := hone
    refine hone'.lines_eq ?_ (by simp [joined]) (by simp [hlast])
    exact List.forall_mem_singleton.2 (lineFeed_joined hline.lineFeed hfeed)
  have hlines' : lines three.toList = [line, dropCr body, ['}']] := by
    have hthree' : IsMadeOf three ([line, body] ++ [['}']]) := hthree
    rw [hthree'.lines_eq (by simp [hline.lineFeed, hfeed]) (by simp) (by simp), List.map_cons,
      List.map_singleton, hline.dropCr_eq]
    rfl
  have hlevel : ∀ l ∈ [dropCr body], braceDelta l = 0 := by
    rw [List.forall_mem_singleton, braceDelta_dropCr, braceDelta_eq_zero hbody]
  have hclosed : Closes 0 [line, dropCr body, ['}']] :=
    closes_of_level hline.braceDelta_eq hlevel (by decide)
  have hsame : sc.finished file o 1 [line, dropCr body, ['}']] =
      sc.record file o 1 3 [trim body] [line, dropCr body, ['}']] := by
    rw [← record_brace, ← trim_dropCr body]
    rfl
  refine ⟨sc.record file o 1 1 [trim body] [joined line body], ?_, ?_, rfl, rfl, rfl⟩
  · rw [scan_eq_run, hlines, run_finished (hline.open?_joined body) (hline.closes_joined hbody),
      finished, hline.bodyOf_joined]
    rfl
  · rw [scan_eq_run, hlines', run_finished hline.opens hclosed, hsame]
    rfl

/-- A data source whose body has a quoted `#` and, in a comment, braces that
    close before they open; no line feed ends its one line. -/
theorem scan_oneLine_document :
    let sc : BlockScanner := ⟨.dataSource, []⟩
    let line := "  data \"aws_iam_policy_document\" \"read\" \x7b".toList
    let body := "policy = \"a # b\" # \x7d \x7b".toList
    let o : Opening := ⟨"aws_iam_policy_document".toList, "read".toList⟩
    let one := String.ofList (joined line body)
    let three := String.ofList (unlines [line, body, ['}']])
    sc.Header line o ∧ '\n' ∉ body ∧ body.count '{' = body.count '}' ∧
      IsMadeOf one [joined line body] ∧ IsMadeOf three [line, body, ['}']] ∧
      ∃ b, sc.scan "main.tf" one = [b] ∧
        sc.scan "main.tf" three = [{ b with lastLine := 3, rawText := three }] ∧
        b.assignments = [("policy", "a # b")] := by
  intro sc line body o one three
  have hline : sc.Header line o :=
    ⟨by decide, by decide, ⟨line.dropLast, by decide, by decide⟩, by decide⟩
  have hfeed : '\n' ∉ body := by decide
  have hbody : body.count '{' = body.count '}' := by decide
  have hone : IsMadeOf one [joined line body] := Or.inr (by simp [one, unlines])
  have hthree : IsMadeOf three [line, body, ['}']] := Or.inl String.toList_ofList
  obtain ⟨b, hscan, hscan', -⟩ := scan_oneLine hline hfeed hbody hone hthree
  have hread : (sc.scan "main.tf" one).map Block.assignments = [[("policy", "a # b")]] := by
    decide +kernel
  rw [hscan] at hread
  exact ⟨hline, hfeed, hbody, hone, hthree, b, hscan, hscan', (List.cons.inj hread).1⟩

end BlockScanner

end InfraEvidence
