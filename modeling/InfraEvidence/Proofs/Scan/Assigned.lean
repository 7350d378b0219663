/-
  InfraEvidence — the assignments of a block, in its text.

  * `Assigns`: the lines that assign a value to a key;
  * `assigns_iff`: these are the lines, trimmed, that an assignment is read from;
  * `BlockScanner.exists_finished_of_mem_scan`: a block that a scan finds is what
    the lines of its text make;
  * `BlockScanner.assignments_of_mem_scan`: so it has the assignments of these
    lines, one after the other.
-/
import InfraEvidence.Proofs.Block.Identifier
import InfraEvidence.Proofs.Scan.RawText

namespace InfraEvidence

open Text

/-! ## Lines -/

/-- The line is an identifier, blanks, an equals sign and a text; it assigns to
    the one what the other one is cleaned to.  Such a line is no comment. -/
def Assigns (line : List Char) (key value : String) : Prop :=
  ∃ name gap rhs, line = name ++ (gap ++ '=' :: rhs) ∧ IsIdentifier name ∧
    (∀ c ∈ gap, isBlank c = true) ∧ key = String.ofList name ∧
    value = String.ofList (cleanValue rhs)

theorem assignment?_eq_some {line : List Char} {key value : String}
    (h : assignment? line = some (key, value)) : Assigns (trimStart line) key value := by
  simp only [assignment?, Option.bind_eq_bind, Option.bind_eq_some_iff] at h
  obtain ⟨⟨name, rest⟩, hname, h⟩ := h
  obtain ⟨hline, hname, -⟩ := identifier?_eq_some_iff.1 hname
  split at h
  · next rhs hrhs =>
    obtain ⟨rfl, rfl⟩ := Prod.mk.inj (Option.some.inj h)
    refine ⟨name, rest.takeWhile isBlank, rhs, ?_, hname, ?_, rfl, rfl⟩
    · rw [hline, ← hrhs, trimStart, List.takeWhile_append_dropWhile]
    · exact List.all_eq_true.1 List.all_takeWhile
  · contradiction

/-- **A trimmed line has an assignment read from it exactly if it makes one.** -/
theorem assigns_iff {line : List Char} {key value : String} :
    Assigns line key value ↔
      trimStart line = line ∧ Block.assignmentOf? line = some (key, value) := by
  constructor
  · rintro ⟨name, gap, rhs, rfl, hname, hgap, rfl, rfl⟩
    exact ⟨trimStart_identifier hname _, assignmentOf?_equals hname hgap rhs⟩
  · rintro ⟨htrim, h⟩
    unfold Block.assignmentOf? at h
    split at h
    · contradiction
    · rw [← htrim]
      exact assignment?_eq_some h

namespace Text

theorem trimStart_trim (s : List Char) : trimStart (trim s) = trim s := by
  unfold trim
  cases h : trimStart s with
  | nil => rfl
  | cons c t =>
    have hc : isBlank c = false := head?_dropWhile isBlank s c (by rw [← trimStart, h]; rfl)
    have hend := trimEnd_append hc [] t
    rw [List.nil_append, List.nil_append] at hend
    rw [hend, trimStart_cons hc]

end Text

/-! ## Blocks -/

namespace BlockScanner

theorem trimStart_of_mem_bodyOf {span : List (List Char)} {line : List Char}
    (h : line ∈ bodyOf span) : trimStart line = line := by
  obtain ⟨l, rfl⟩ : ∃ l, line = trim l := by
    match span, h with
    | [l], h =>
      obtain ⟨inner, -, rfl⟩ := List.mem_map.1 h
      exact ⟨inner, rfl⟩
    | l :: l' :: ls, h =>
      obtain ⟨l, -, rfl⟩ := List.mem_map.1 h
      exact ⟨l, rfl⟩
  exact trimStart_trim l

section
variable {sc : BlockScanner} {file text : String} {b : Block} (hb : b ∈ sc.scan file text)
include hb

/-- **A block that a scan finds is what the lines of its text make**; these lines
    have lost carriage returns at their ends. -/
theorem exists_finished_of_mem_scan :
    ∃ o span, b = sc.finished file o b.firstLine span ∧
      lines b.rawText.toList = span.map dropCr := by
  rw [scan_eq_run] at hb
  obtain ⟨before, l, o, body, after, he, -, -, rfl⟩ := mem_run hb
  have hfeed : ∀ x ∈ l :: body, '\n' ∉ x := by
    intro x hx
    refine lineFeed_lines (s := text.toList) ?_
    rw [he]
    exact List.mem_append_left _ (List.mem_append_right _ hx)
  refine ⟨o, l :: body, rfl, ?_⟩
  rw [finished, record, String.toList_ofList, lines_unlines_eq hfeed]

/-- **The assignments of a block are those of the lines of its text.** -/
theorem assignments_of_mem_scan :
    b.assignments = (bodyOf (lines b.rawText.toList)).filterMap Block.assignmentOf? := by
  obtain ⟨o, span, hblock, hlines⟩ := exists_finished_of_mem_scan hb
  rw [hlines, bodyOf_map_dropCr]
  exact congrArg Block.assignments hblock

theorem settings_of_mem_scan :
    b.settings = (bodyOf (lines b.rawText.toList)).foldl Block.settle Dict.empty := by
  obtain ⟨o, span, hblock, hlines⟩ := exists_finished_of_mem_scan hb
  rw [hlines, bodyOf_map_dropCr]
  exact congrArg Block.settings hblock

/-- A block that goes on after its first line is read from all its lines but that one. -/
theorem bodyOf_of_mem_scan (h : b.firstLine < b.lastLine) :
    bodyOf (lines b.rawText.toList) = (lines b.rawText.toList).tail.map trim := by
  obtain ⟨o, span, hblock, hlines⟩ := exists_finished_of_mem_scan hb
  have hlast : b.lastLine = b.firstLine + (span.length - 1) := congrArg Block.lastLine hblock
  have hlen : (lines b.rawText.toList).length = span.length := by rw [hlines, List.length_map]
  match hls : lines b.rawText.toList with
  | [] => rfl
  | [l] =>
    rw [hls, List.length_singleton] at hlen
    omega
  | l :: l' :: ls => rfl

end

end BlockScanner

end InfraEvidence
