/-
  InfraEvidence — the text of a block, scanned again.

  * `Closes.map_dropCr`, `bodyOf_map_dropCr`: carriage returns at the ends of
    lines count for nothing, neither for the braces nor for the settings;
  * `finished_map_dropCr`: so a block is the same without them, its text aside;
  * `scan_rawText`: the text of a block, scanned by itself, is this one block.
-/
import InfraEvidence.Proofs.Scan.Narrowing
import InfraEvidence.Proofs.Text.LineEnds

namespace InfraEvidence

open Text

/-! ## Lines without their carriage returns -/

@[simp] theorem braceDelta_dropCr (l : List Char) : braceDelta (dropCr l) = braceDelta l := by
  rw [← braceDelta_trim, trim_dropCr, braceDelta_trim]

theorem StaysOpen.map_dropCr {d : Int} {ls : List (List Char)} (h : StaysOpen d ls) :
    StaysOpen d (ls.map dropCr) := by
  intro k hk hl
  rw [List.length_map] at hl
  rw [← List.map_take, braceSum_map braceDelta_dropCr]
  exact h k hk hl

theorem Closes.map_dropCr {d : Int} {ls : List (List Char)} (h : Closes d ls) :
    Closes d (ls.map dropCr) where
  ne_nil := by simpa using h.ne_nil
  before := by
    rw [← List.map_dropLast]
    exact h.before.map_dropCr
  closed := by
    rw [braceSum_map braceDelta_dropCr]
    exact h.closed

theorem Text.betweenBraces?_concat {c : Char} (h : c ≠ '{') (h' : c ≠ '}') (l : List Char) :
    betweenBraces? (l ++ [c]) = betweenBraces? l := by
  unfold betweenBraces?
  rw [List.dropWhile_append]
  cases hl : l.dropWhile (· != '{') with
  | nil => simp [h]
  | cons d rest => simp [h']

theorem Text.betweenBraces?_dropCr (l : List Char) :
    betweenBraces? (dropCr l) = betweenBraces? l := by
  rcases dropCr_cases l with h | h
  · rw [h]
  · rw [h, dropCr_concat, betweenBraces?_concat (by decide) (by decide)]

namespace BlockScanner

variable {sc : BlockScanner} {file : String}

theorem open?_dropCr (l : List Char) : sc.open? (dropCr l) = sc.open? l := by
  rw [open?, open?, trim_dropCr]

theorem bodyOf_map_dropCr (span : List (List Char)) : bodyOf (span.map dropCr) = bodyOf span := by
  have hmap : ∀ ls : List (List Char), (ls.map dropCr).map trim = ls.map trim := by
    intro ls
    rw [List.map_map]
    exact List.map_congr_left fun l _ => trim_dropCr l
  match span with
  | [] => rfl
  | [l] => rw [List.map_singleton, bodyOf, bodyOf, betweenBraces?_dropCr]
  | l :: l' :: ls => exact hmap (l' :: ls)

theorem finished_map_dropCr {o : Opening} {n : Nat} {span : List (List Char)} (hspan : span ≠ []) :
    let b := sc.finished file o n span
    sc.finished file o 1 (span.map dropCr) =
      { b with
        firstLine := 1
        lastLine := b.lastLine - b.firstLine + 1
        rawText := String.ofList (unlines (span.map dropCr)) } := by
  have hlen := List.length_pos_iff.2 hspan
  have hlast : 1 + (span.length - 1) = n + (span.length - 1) - n + 1 := by omega
  simp only [finished, record, bodyOf_map_dropCr, List.length_map, hlast]

/-- **The text of a block is the block.**  Scanned by itself it gives this one
    block, from line 1 on, with a carriage return before a line feed left out of
    its text; there is none to leave out if the first text had none. -/
theorem scan_rawText {text : String} {b : Block} (hb : b ∈ sc.scan file text) :
    ∃ raw, sc.scan file b.rawText =
        [{ b with firstLine := 1, lastLine := b.lastLine - b.firstLine + 1, rawText := raw }] ∧
      raw = String.ofList (replaceAll ['\r', '\n'] ['\n'] b.rawText.toList) ∧
      ('\r' ∉ text.toList → raw = b.rawText) := by
  rw [scan_eq_run] at hb
  obtain ⟨before, l, o, body, after, he, ho, hc, rfl⟩ := mem_run hb
  have hmem : ∀ x ∈ l :: body, x ∈ lines text.toList := by
    intro x hx
    rw [he]
    exact List.mem_append_left _ (List.mem_append_right _ hx)
  have hfeed : ∀ x ∈ l :: body, '\n' ∉ x := fun x hx => lineFeed_lines (hmem x hx)
  have hraw : (sc.finished file o (1 + before.length) (l :: body)).rawText.toList =
      unlines (l :: body) := String.toList_ofList
  refine ⟨String.ofList (unlines ((l :: body).map dropCr)), ?_, ?_, fun hcr => ?_⟩
  · have ho' : sc.open? (dropCr l) = some o := by rw [open?_dropCr, ho]
    have hc' := hc.map_dropCr
    rw [List.map_cons] at hc'
    rw [scan_eq_run, hraw, lines_unlines_eq hfeed, List.map_cons, run_finished ho' hc',
      ← List.map_cons, finished_map_dropCr (List.cons_ne_nil _ _)]
  · rw [hraw, replaceAll_crlf_unlines hfeed]
  · have hkeep : ∀ x ∈ l :: body, dropCr x = x := by
      intro x hx
      refine dropCr_of_getLast fun hlast => hcr ?_
      exact (mem_lines (hmem x hx) _ (List.mem_of_getLast? hlast)).1
    rw [List.map_congr_left hkeep, List.map_id']
    rfl

/-- Its first line ends in two carriage returns, its last one in one that no line
    feed follows. -/
theorem scan_rawText_crlf :
    let text := "\r\nresource \"aws_s3_bucket\" \"logs\" \x7b\r\r\n  acl = 1 \x7d\r"
    let b := ((resources []).scan "main.tf" text).get ⟨0, by decide +kernel⟩
    b ∈ (resources []).scan "main.tf" text ∧
      (b.firstLine, b.lastLine, b.rawText) =
        (2, 3, "resource \"aws_s3_bucket\" \"logs\" \x7b\r\n  acl = 1 \x7d\r\n") ∧
      (resources []).scan "main.tf" b.rawText =
        [{ b with
            firstLine := 1
            lastLine := 2
            rawText := "resource \"aws_s3_bucket\" \"logs\" \x7b\n  acl = 1 \x7d\n" }] := by
  intro text b
  have hb : b ∈ (resources []).scan "main.tf" text := List.get_mem _ _
  obtain ⟨raw, hscan, rfl, -⟩ := scan_rawText hb
  refine ⟨hb, by decide +kernel, ?_⟩
  rw [hscan]
  decide +kernel

end BlockScanner

end InfraEvidence
