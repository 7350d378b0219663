/-
  InfraEvidence — where the assignments of a block come from.

  * `infix_cleanValue`: a value is a piece of the text that it is read from;
    `infix_of_betweenBraces?`: and what stands between braces is one of its line;
  * `StatedIn`: a line holds a key, an equals sign and, behind it, a value;
  * `exists_place`: a list whose items match some of another list in order, as
    a strictly increasing map of positions;
  * `assignments_placed`: the assignments of a block are found in its text, in
    their order and each on a line of its own.
-/
import Mathlib.Data.List.NodupEquivFin
import Mathlib.Data.List.Forall2
import InfraEvidence.Proofs.Scan.Assigned

namespace InfraEvidence

open Text

/-! ## Pieces of a text -/

theorem Text.infix_trim (s : List Char) : trim s <:+: s := by
  have hstart : trimStart s <:+: s := (List.dropWhile_suffix _).isInfix
  have hend : trim s <+: trimStart s := by
    rw [trim, trimEnd, ← List.reverse_suffix, List.reverse_reverse]
    exact List.dropWhile_suffix _
  exact hend.isInfix.trans hstart

theorem Text.infix_of_betweenBraces? {line inner : List Char}
    (h : betweenBraces? line = some inner) : inner <:+: line := by
  unfold betweenBraces? at h
  split at h
  · contradiction
  · next c rest hopen =>
    split at h
    · contradiction
    · next d piece hclose =>
      obtain rfl := Option.some.inj h
      have hrest : rest <:+ line :=
        (List.suffix_cons c rest).trans (hopen ▸ List.dropWhile_suffix _)
      have hpiece : piece.reverse <+: rest := by
        rw [← List.reverse_suffix, List.reverse_reverse]
        exact (List.suffix_cons d piece).trans (hclose ▸ List.dropWhile_suffix _)
      exact hpiece.isInfix.trans hrest.isInfix

theorem infix_of_unquote? {q : Char} {s inner : List Char} (h : unquote? q s = some inner) :
    inner <:+: s := ⟨[q], [q], (unquote?_eq_some_iff.1 h).symm⟩

theorem infix_stripQuotes (s : List Char) : stripQuotes s <:+: s := by
  unfold stripQuotes
  cases hdouble : unquote? '"' s with
  | some inner => exact infix_of_unquote? hdouble
  | none =>
    cases hsingle : unquote? '\x27' s with
    | some inner => exact infix_of_unquote? hsingle
    | none => exact List.infix_rfl

/-- **A value is a piece of the text that it is read from.** -/
theorem infix_cleanValue (rhs : List Char) : cleanValue rhs <:+: rhs :=
  ((infix_stripQuotes _).trans (infix_trim _)).trans (prefix_cutComment none rhs).isInfix

/-! ## Lines -/

/-- Somewhere in the line stand the key, which is an identifier, blanks and an
    equals sign, and behind it, in one piece, the value. -/
def StatedIn (p : String × String) (line : List Char) : Prop :=
  ∃ before gap rhs, line = before ++ (p.1.toList ++ (gap ++ '=' :: rhs)) ∧
    IsIdentifier p.1.toList ∧ (∀ c ∈ gap, isBlank c = true) ∧ p.2.toList <:+: rhs

theorem Assigns.statedIn {line : List Char} {key value : String} (h : Assigns line key value) :
    StatedIn (key, value) line := by
  obtain ⟨name, gap, rhs, rfl, hname, hgap, rfl, rfl⟩ := h
  refine ⟨[], gap, rhs, ?_, ?_, hgap, ?_⟩
  · rw [String.toList_ofList, List.nil_append]
  · rwa [String.toList_ofList]
  · rw [String.toList_ofList]
    exact infix_cleanValue rhs

namespace StatedIn

variable {p : String × String} {s line : List Char}

/-- What is stated in a piece of a line is stated in the line. -/
theorem mono (h : StatedIn p s) (hs : s <:+: line) : StatedIn p line := by
  obtain ⟨before, gap, rhs, rfl, hkey, hgap, hvalue⟩ := h
  obtain ⟨front, back, rfl⟩ := hs
  exact ⟨front ++ before, gap, rhs ++ back, by simp, hkey, hgap,
    hvalue.trans (List.prefix_append rhs back).isInfix⟩

theorem value_subset (h : StatedIn p line) : p.2.toList ⊆ line := by
  obtain ⟨before, gap, rhs, rfl, -, -, hvalue⟩ := h
  intro c hc
  have hrhs : c ∈ '=' :: rhs := List.mem_cons_of_mem _ (hvalue.subset hc)
  exact List.mem_append_right _ (List.mem_append_right _ (List.mem_append_right _ hrhs))

end StatedIn

theorem statedIn_of_assignmentOf? {p : String × String} {line : List Char}
    (h : Block.assignmentOf? line = some p) : StatedIn p line := by
  unfold Block.assignmentOf? at h
  split at h
  · contradiction
  · exact (assignment?_eq_some h).statedIn.mono (List.dropWhile_suffix _).isInfix

/-- The assignments of some lines, trimmed, are stated in them, one after the other. -/
theorem statedIn_filterMap (ls : List (List Char)) :
    List.SublistForall₂ StatedIn ((ls.map trim).filterMap Block.assignmentOf?) ls := by
  induction ls with
  | nil => exact .nil
  | cons l ls ih =>
    rw [List.map_cons]
    cases h : Block.assignmentOf? (trim l) with
    | none =>
      rw [List.filterMap_cons_none h]
      exact .cons_right ih
    | some p =>
      rw [List.filterMap_cons_some h]
      exact .cons ((statedIn_of_assignmentOf? h).mono (infix_trim l)) ih

theorem BlockScanner.statedIn_bodyOf (span : List (List Char)) :
    List.SublistForall₂ StatedIn ((bodyOf span).filterMap Block.assignmentOf?) span := by
  match span with
  | [] => exact .nil
  | [l] =>
    rw [bodyOf]
    cases hinner : betweenBraces? l with
    | none => exact .nil
    | some inner =>
      rw [Option.toList_some, List.map_singleton, filterMap_assignmentOf]
      cases h : Block.assignmentOf? (trim inner) with
      | none => exact .nil
      | some p =>
        have hpiece : trim inner <:+: l := (infix_trim inner).trans (infix_of_betweenBraces? hinner)
        exact .cons ((statedIn_of_assignmentOf? h).mono hpiece) .nil
  | l :: l' :: ls => exact .cons_right (statedIn_filterMap (l' :: ls))

/-! ## Places -/

section
variable {α β : Type} {R : α → β → Prop} {as : List α} {bs : List β}

/-- **Items that match some of another list in order** have places there that
    increase strictly. -/
theorem exists_place (h : List.SublistForall₂ R as bs) :
    ∃ place : Fin as.length → Fin bs.length, StrictMono place ∧
      ∀ i, R (as.get i) (bs.get (place i)) := by
  obtain ⟨cs, hmatch, hsub⟩ := List.sublistForall₂_iff.1 h
  obtain ⟨f, hf⟩ := List.sublist_iff_exists_fin_orderEmbedding_get_eq.1 hsub
  have hlen : as.length = cs.length := hmatch.length_eq
  refine ⟨fun i => f (i.cast hlen), fun i j hij => f.strictMono hij, fun i => ?_⟩
  rw [← hf]
  exact hmatch.get i.isLt (hlen ▸ i.isLt)

theorem exists_place_tail (h : List.SublistForall₂ R as bs.tail) :
    ∃ place : Fin as.length → Fin bs.length, StrictMono place ∧
      (∀ i, R (as.get i) (bs.get (place i))) ∧ ∀ i, (place i).val ≠ 0 := by
  obtain ⟨place, hmono, hplace⟩ := exists_place h
  cases bs with
  | nil => exact ⟨place, hmono, hplace, fun i => (place i).elim0⟩
  | cons b bs =>
    exact ⟨fun i => (place i).succ, fun i j hij => Fin.succ_lt_succ_iff.2 (hmono hij), hplace,
      fun i => Nat.succ_ne_zero _⟩

end

/-! ## Blocks -/

namespace BlockScanner

/-- **The assignments of a block stand in its text**: in their order, each on a
    line of its own, which is not the first one if there are others; no value
    goes beyond its line. -/
theorem assignments_placed {sc : BlockScanner} {file text : String} {b : Block}
    (hb : b ∈ sc.scan file text) :
    let ls := lines b.rawText.toList
    ∃ place : Fin b.assignments.length → Fin ls.length, StrictMono place ∧
      (∀ i, StatedIn (b.assignments.get i) (ls.get (place i))) ∧
      (b.firstLine < b.lastLine → ∀ i, (place i).val ≠ 0) ∧
      ∀ p ∈ b.assignments, '\n' ∉ p.2.toList := by
  intro ls
  have hplace : ∃ place : Fin b.assignments.length → Fin ls.length, StrictMono place ∧
      (∀ i, StatedIn (b.assignments.get i) (ls.get (place i))) ∧
      (b.firstLine < b.lastLine → ∀ i, (place i).val ≠ 0) := by
    by_cases hlines : b.firstLine < b.lastLine
    · have htail : List.SublistForall₂ StatedIn b.assignments ls.tail := by
        rw [assignments_of_mem_scan hb, bodyOf_of_mem_scan hb hlines]
        exact statedIn_filterMap ls.tail
      obtain ⟨place, hmono, hstated, hfirst⟩ := exists_place_tail htail
      exact ⟨place, hmono, hstated, fun _ => hfirst⟩
    · have hall : List.SublistForall₂ StatedIn b.assignments ls := by
        rw [assignments_of_mem_scan hb]
        exact statedIn_bodyOf ls
      obtain ⟨place, hmono, hstated⟩ := exists_place hall
      exact ⟨place, hmono, hstated, fun h => absurd h hlines⟩
  obtain ⟨place, hmono, hstated, hfirst⟩ := hplace
  refine ⟨place, hmono, hstated, hfirst, fun p hp hfeed => ?_⟩
  obtain ⟨i, rfl⟩ := List.mem_iff_get.1 hp
  exact lineFeed_lines (List.get_mem ls (place i)) ((hstated i).value_subset hfeed)

/-- The assignment in a comment is none; the `#` between quotes, the second
    equals sign and the blanks around them are part of the values. -/
theorem assignments_placed_call :
    let sc : BlockScanner := ⟨.moduleCall, []⟩
    let text := "module \"net\" \x7b\r\n\u00A0cidr == 'a' \r\n  # cidr = 1\r\n" ++
      "  name=\t\"é # b\" # c\r\n\x7d\r\n"
    ∃ b ∈ sc.scan "main.tf" text, b.firstLine < b.lastLine ∧
      b.assignments = [("cidr", "= 'a'"), ("name", "é # b")] ∧
      ∃ place : Fin b.assignments.length → Fin (lines b.rawText.toList).length,
        StrictMono place ∧
        (∀ i, StatedIn (b.assignments.get i) ((lines b.rawText.toList).get (place i))) ∧
        ∀ i, (place i).val ≠ 0 := by
  intro sc text
  have hfound : ∃ b ∈ sc.scan "main.tf" text, b.firstLine < b.lastLine ∧
      b.assignments = [("cidr", "= 'a'"), ("name", "é # b")] := by
    decide +kernel
  obtain ⟨b, hb, hlines, hassignments⟩ := hfound
  obtain ⟨place, hmono, hstated, hfirst, -⟩ := assignments_placed hb
  exact ⟨b, hb, hlines, hassignments, place, hmono, hstated, hfirst hlines⟩

end BlockScanner

end InfraEvidence
