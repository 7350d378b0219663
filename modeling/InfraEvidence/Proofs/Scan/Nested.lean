/-
  InfraEvidence — a nested block on three lines, and on one.

  Inside of a block, a nested block with one assignment is written on three
  lines: its opening, the assignment, and the closing brace.  The same three
  parts can be written on one line.

  * `NestedBlock`: such a nested block; `spread`, `compact`: its two layouts,
    without the blanks around the lines;
  * `Loses p b b'`: the block `b'` is `b` without the assignment `p`, and
    `hasIssues_eq`, `isPermissive_eq`, `rangeFindings_eq`: what this does to
    the findings that are read from the assignments;
  * `scan_nested`: on three lines the assignment is one of the enclosing block,
    on one line it is not, and this is the only difference;
  * `compact_hides_range`: an open address range that only one of the layouts
    shows.
-/
import InfraEvidence.Proofs.Posture.Findings
import InfraEvidence.Proofs.Scan.Recovery
import InfraEvidence.Proofs.Scan.Written
import InfraEvidence.Selection

namespace InfraEvidence

open Text

/-! ## The two layouts -/

/-- A nested block with one assignment. -/
structure NestedBlock where
  keyword : List Char
  key : List Char
  /-- What stands before the equals sign -/
  gap : List Char
  /-- What stands behind it, a comment included -/
  rhs : List Char
  keyword_identifier : IsIdentifier keyword
  key_identifier : IsIdentifier key
  blank : ∀ c ∈ gap, isBlank c = true
  flat : Flat (key ++ (gap ++ '=' :: rhs))

namespace NestedBlock

variable (n : NestedBlock)

/-- The line `key = rhs`. -/
def assignment : List Char := n.key ++ (n.gap ++ '=' :: n.rhs)

/-- The key and the value that the line assigns to it. -/
def pair : String × String := (String.ofList n.key, String.ofList (cleanValue n.rhs))

/-- The three lines `keyword {`, `key = rhs` and `}`. -/
def spread : List (List Char) := [n.keyword ++ [' ', '{'], n.assignment, ['}']]

/-- The one line `keyword { key = rhs }`. -/
def compact : List Char := n.keyword ++ ' ' :: '{' :: ' ' :: (n.assignment ++ [' ', '}'])

theorem braceSum_spread : braceSum n.spread = 0 := by
  have hopen : braceDelta [' ', '{'] = 1 := by decide
  have hclose : braceDelta ['}'] = -1 := by decide
  rw [spread, braceSum_cons, braceSum_cons, braceSum_cons, braceSum_nil, braceDelta_append,
    n.keyword_identifier.flat.braceDelta_eq, assignment, n.flat.braceDelta_eq, hopen, hclose]
  rfl

theorem braceDelta_compact : braceDelta n.compact = 0 := by
  have hopen : braceDelta [' ', '{', ' '] = 1 := by decide
  have hclose : braceDelta [' ', '}'] = -1 := by decide
  have hshape : n.compact = n.keyword ++ ([' ', '{', ' '] ++ (n.assignment ++ [' ', '}'])) := rfl
  rw [hshape, braceDelta_append, braceDelta_append, braceDelta_append,
    n.keyword_identifier.flat.braceDelta_eq, assignment, n.flat.braceDelta_eq, hopen, hclose]
  rfl

/-- A line that begins a nested block assigns nothing, whatever follows the brace. -/
theorem assignmentOf?_keyword (t : List Char) :
    Block.assignmentOf? (n.keyword ++ ' ' :: '{' :: t) = none := by
  have hbrace : trimStart (' ' :: '{' :: t) = '{' :: t := by
    rw [trimStart_cons_blank (by decide), trimStart_cons (by decide)]
  have hcomment := not_isComment_append n.keyword_identifier (' ' :: '{' :: t)
  rw [Block.assignmentOf?, if_neg (by simp [hcomment]), assignment?,
    trimStart_identifier n.keyword_identifier,
    identifier?_of_isIdentifier n.keyword_identifier (by decide), Option.bind_eq_bind,
    Option.bind_some]
  simp only [hbrace]
  rfl

theorem filterMap_spread : n.spread.filterMap Block.assignmentOf? = [n.pair] := by
  have hopen := n.assignmentOf?_keyword []
  have hassign : Block.assignmentOf? n.assignment = some n.pair :=
    assignmentOf?_equals n.key_identifier n.blank n.rhs
  have hclose : Block.assignmentOf? ['}'] = none := by decide
  rw [spread, List.filterMap_cons_none hopen, List.filterMap_cons_some hassign,
    List.filterMap_cons_none hclose]
  rfl

theorem filterMap_compact : [n.compact].filterMap Block.assignmentOf? = [] := by
  have hnone : Block.assignmentOf? n.compact = none := n.assignmentOf?_keyword _
  rw [List.filterMap_cons_none hnone]
  rfl

end NestedBlock

/-! ## A lost assignment -/

/-- Of the block `b` the assignment `p` is lost in `b'`. -/
structure Loses (p : String × String) (b b' : Block) : Prop where
  type : b'.type = b.type
  name : b'.name = b.name
  assignments : ∃ xs ys, b.assignments = xs ++ p :: ys ∧ b'.assignments = xs ++ ys

namespace Loses

variable {p : String × String} {b b' : Block}

theorem assignments_ne (h : Loses p b b') : b'.assignments ≠ b.assignments := by
  obtain ⟨xs, ys, hb, hb'⟩ := h.assignments
  intro he
  have := congrArg List.length he
  rw [hb, hb', List.length_append, List.length_append, List.length_cons] at this
  omega

theorem countP_eq (h : Loses p b b') (f : String × String → Bool) :
    b.assignments.countP f = b'.assignments.countP f + if f p then 1 else 0 := by
  obtain ⟨xs, ys, hb, hb'⟩ := h.assignments
  rw [hb, hb', List.countP_append, List.countP_append, List.countP_cons, Nat.add_assoc]

theorem any_eq (h : Loses p b b') (f : String × String → Bool) :
    b.assignments.any f = (f p || b'.assignments.any f) := by
  obtain ⟨xs, ys, hb, hb'⟩ := h.assignments
  rw [hb, hb', List.any_append, List.any_append, List.any_cons, Bool.or_left_comm]

theorem hasIssues_eq (h : Loses p b b') :
    Selection.hasIssues b = (Selection.isRisky p.1 p.2 || Selection.hasIssues b') := by
  unfold Selection.hasIssues
  rw [h.type, h.name, h.any_eq, Bool.or_left_comm]

theorem isPermissive_eq (h : Loses p b b') :
    Posture.isPermissive b = (Posture.grantsAll p.1 p.2 || Posture.isPermissive b') :=
  h.any_eq _

theorem canonicalReference_eq (h : Loses p b b') :
    b'.canonicalReference = b.canonicalReference := by
  unfold Block.canonicalReference
  rw [h.type, h.name]

end Loses

theorem Loses.rangeFindings_eq {p : String × String} {b b' : Block} (h : Loses p b b')
    (test : String → Bool) :
    Posture.rangeFindings test [b] =
      Posture.rangeFindings test [b'] ++
        if Posture.isNetworkControl b && (Posture.isRangeKey p.1 && test p.2) then
          [b.canonicalReference]
        else [] := by
  have htype : Posture.isNetworkControl b' = Posture.isNetworkControl b := by
    unfold Posture.isNetworkControl
    rw [h.type]
  rw [Posture.rangeFindings_singleton, Posture.rangeFindings_singleton, htype,
    h.canonicalReference_eq, h.countP_eq]
  cases Posture.isNetworkControl b with
  | false => rfl
  | true =>
    cases Posture.isRangeKey p.1 && test p.2 with
    | false => simp
    | true => simp [List.replicate_succ']

/-! ## Scanning -/

namespace BlockScanner

variable {sc : BlockScanner} {file : String}

/-- Lines that make up a block still do so if some lines inside of it are
    replaced by others with the same braces. -/
theorem closes_of_replaced {first : List Char} {before inner inner' after : List (List Char)}
    (hafter : after ≠ []) (h : Closes 0 (first :: (before ++ inner ++ after)))
    (hopen : ∀ d, 0 < d → StaysOpen d inner') (hsum : braceSum inner' = braceSum inner) :
    Closes 0 (first :: (before ++ inner' ++ after)) := by
  have hsplit : ∀ ls : List (List Char), first :: (before ++ ls ++ after) =
      (first :: before) ++ (ls ++ after) := by simp
  have hne : ∀ ls : List (List Char), ls ++ after ≠ [] :=
    fun ls => List.append_ne_nil_of_right_ne_nil ls hafter
  rw [hsplit] at h ⊢
  obtain ⟨hbefore, hrest⟩ := (closes_append (hne _)).1 h
  have hpos := hbefore.pos (List.cons_ne_nil first before)
  refine (closes_append (hne _)).2 ⟨hbefore, (closes_append hafter).2 ⟨hopen _ hpos, ?_⟩⟩
  rw [hsum]
  exact ((closes_append hafter).1 hrest).2

/-- The assignments of a block, at some lines inside of it. -/
theorem assignments_finished {o : Opening} {first : List Char}
    {before inner after : List (List Char)} (hafter : after ≠ []) :
    (sc.finished file o 1 (first :: (before ++ inner ++ after))).assignments =
      (before.map trim).filterMap Block.assignmentOf? ++
        ((inner.map trim).filterMap Block.assignmentOf? ++
          (after.map trim).filterMap Block.assignmentOf?) := by
  have hne : before ++ inner ++ after ≠ [] := List.append_ne_nil_of_right_ne_nil _ hafter
  rw [finished, bodyOf_cons hne]
  simp only [record, List.map_append, List.filterMap_append, List.append_assoc]

/-- **A nested block shows its assignment on three lines and hides it on one**:
    where three lines inside of a block are a nested block with one assignment,
    and one line in their place is the same nested block, both texts are one
    block of the same type and name, and exactly this assignment is lost. -/
theorem scan_nested {n : NestedBlock} {first one : List Char}
    {before three after : List (List Char)} {text text' : String} (hafter : after ≠ [])
    (hthree : three.map trim = n.spread) (hone : trim one = n.compact)
    (htext : lines text.toList = first :: (before ++ three ++ after))
    (htext' : lines text'.toList = first :: (before ++ [one] ++ after))
    (hblock : sc.Whole file (lines text.toList)) :
    ∃ b b', sc.scan file text = [b] ∧ sc.scan file text' = [b'] ∧ Loses n.pair b b' ∧
      b'.assignments ≠ b.assignments ∧
      Selection.hasIssues b =
        (Selection.isRisky n.pair.1 n.pair.2 || Selection.hasIssues b') ∧
      Posture.isPermissive b =
        (Posture.grantsAll n.pair.1 n.pair.2 || Posture.isPermissive b') ∧
      ∀ test, Posture.rangeFindings test [b] =
        Posture.rangeFindings test [b'] ++
          if Posture.isNetworkControl b && (Posture.isRangeKey n.pair.1 && test n.pair.2) then
            [b.canonicalReference]
          else [] := by
  rw [htext] at hblock
  obtain ⟨l, o, body, he, ho, hcloses⟩ := whole_iff.1 hblock
  obtain ⟨rfl, rfl⟩ := List.cons.inj he
  -- both layouts leave as many braces open as they find
  have hlevel : braceDelta one = 0 := by
    rw [← braceDelta_trim, hone, n.braceDelta_compact]
  have hsum : braceSum [one] = braceSum three := by
    rw [← braceSum_map braceDelta_trim three, hthree, n.braceSum_spread, braceSum_cons, hlevel]
    rfl
  have hopen : ∀ d, 0 < d → StaysOpen d [one] := fun d hd =>
    staysOpen_of_level hd (List.forall_mem_singleton.2 hlevel)
  have hcloses' := closes_of_replaced hafter hcloses hopen hsum
  have hlost : Loses n.pair (sc.finished file o 1 (first :: (before ++ three ++ after)))
      (sc.finished file o 1 (first :: (before ++ [one] ++ after))) := by
    refine ⟨rfl, rfl, (before.map trim).filterMap Block.assignmentOf?,
      (after.map trim).filterMap Block.assignmentOf?, ?_, ?_⟩
    · rw [assignments_finished hafter, hthree, n.filterMap_spread, List.singleton_append]
    · rw [assignments_finished hafter, List.map_singleton, hone, n.filterMap_compact,
        List.nil_append]
  refine ⟨_, _, ?_, ?_, hlost, hlost.assignments_ne, hlost.hasIssues_eq, hlost.isPermissive_eq,
    hlost.rangeFindings_eq⟩
  · rw [scan_eq_run, htext, run_finished ho hcloses]
  · rw [scan_eq_run, htext', run_finished ho hcloses']

/-! ## An open range -/

/-- A nested block that admits every address. -/
def openIngress : NestedBlock where
  keyword := "ingress".toList
  key := "cidr_blocks".toList
  gap := [' ']
  rhs := " [\"0.0.0.0/0\"]".toList
  keyword_identifier := ⟨'i', "ngress".toList, rfl, by decide, List.all_eq_true.1 (by decide)⟩
  key_identifier := ⟨'c', "idr_blocks".toList, rfl, by decide, List.all_eq_true.1 (by decide)⟩
  blank := List.forall_mem_singleton.2 (by decide)
  flat := ⟨by decide, by decide, by decide⟩

/-- The lines of a group with some lines inside of it. -/
def groupLines (inner : List String) : List (List Char) :=
  "resource \"aws_security_group\" \"web\" \x7b".toList :: (inner.map String.toList ++ [['}']])

/-- The nested block of the group on three lines. -/
def spreadIngress : List String :=
  ["  ingress \x7b", "    cidr_blocks = [\"0.0.0.0/0\"]", "  \x7d"]

/-- The nested block of the group on one line. -/
def compactIngress : String := "  ingress \x7b cidr_blocks = [\"0.0.0.0/0\"] \x7d"

/-- The group with an open range on three lines has an issue, which is lost on one. -/
theorem scan_nested_group :
    let text := String.ofList (unlines (groupLines spreadIngress))
    let text' := String.ofList (unlines (groupLines [compactIngress]))
    [['}']] ≠ [] ∧ (spreadIngress.map String.toList).map trim = openIngress.spread ∧
      trim compactIngress.toList = openIngress.compact ∧
      lines text.toList = groupLines spreadIngress ∧
      lines text'.toList = groupLines [compactIngress] ∧
      (resources []).Whole "main.tf" (lines text.toList) ∧
      ∃ b b', (resources []).scan "main.tf" text = [b] ∧
        (resources []).scan "main.tf" text' = [b'] ∧ Loses openIngress.pair b b' ∧
        Selection.hasIssues b = true := by
  intro text text'
  have hafter : [['}']] ≠ [] := by decide
  have hthree : (spreadIngress.map String.toList).map trim = openIngress.spread := by
    decide +kernel
  have hone : trim compactIngress.toList = openIngress.compact := by decide +kernel
  have htext : lines text.toList = groupLines spreadIngress := by
    rw [String.toList_ofList]
    decide +kernel
  have htext' : lines text'.toList = groupLines [compactIngress] := by
    rw [String.toList_ofList]
    decide +kernel
  have hblock : (resources []).Whole "main.tf" (lines text.toList) := by
    rw [htext]
    decide +kernel
  have hrisky : Selection.isRisky openIngress.pair.1 openIngress.pair.2 = true := by
    decide +kernel
  obtain ⟨b, b', hb, hb', hlost, -, hissues, -⟩ :=
    @scan_nested (resources []) "main.tf" openIngress _ _ [] _ _ _ _ hafter hthree hone htext
      htext' hblock
  rw [hrisky, Bool.true_or] at hissues
  exact ⟨hafter, hthree, hone, htext, htext', hblock, b, b', hb, hb', hlost, hissues⟩

/-- **One line hides an open range**: with the same nested block on one line the
    group has another list of assignments, no issue and no finding. -/
theorem compact_hides_range :
    let text := String.ofList (unlines (groupLines spreadIngress))
    let text' := String.ofList (unlines (groupLines [compactIngress]))
    (spreadIngress.map String.toList).map trim = openIngress.spread ∧
      trim compactIngress.toList = openIngress.compact ∧
      ((resources []).scan "main.tf" text).map (fun b => (b.type, b.name, b.assignments)) =
        [("aws_security_group", "web", [("cidr_blocks", "[\"0.0.0.0/0\"]")])] ∧
      ((resources []).scan "main.tf" text').map (fun b => (b.type, b.name, b.assignments)) =
        [("aws_security_group", "web", [])] ∧
      ((resources []).scan "main.tf" text).map Selection.hasIssues = [true] ∧
      ((resources []).scan "main.tf" text').map Selection.hasIssues = [false] ∧
      Posture.rangeFindings Posture.isOpenRange ((resources []).scan "main.tf" text) =
        ["aws_security_group.web"] ∧
      Posture.rangeFindings Posture.isOpenRange ((resources []).scan "main.tf" text') = [] := by
  simp only [scan, String.toList_ofList]
  decide +kernel

end BlockScanner

end InfraEvidence
