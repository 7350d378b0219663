/-
  InfraEvidence — blocks that are written and scanned back.

  * `Flat`, `Quotable`: texts that can stand in a comment, and between quotes;
  * `WrittenSetting`, `WrittenBlock`: an assignment and a block as they are
    written, with everything that makes them readable;
  * `WrittenBlock.lines`, `written`: the lines of a block, the text of some;
  * `ReadBack`: a block is the one that was written, at its place;
  * `scan_written`: scanning the text of some blocks reads them all back, one
    after the other, and finds nothing else.
-/
import Mathlib.Data.List.Forall2
import InfraEvidence.Proofs.Block.Quoted
import InfraEvidence.Proofs.Scan.Narrowing
import InfraEvidence.Proofs.Text.LineEnds

namespace InfraEvidence

open Text

/-! ## Texts without braces -/

/-- No brace and no line feed. -/
structure Flat (s : List Char) : Prop where
  opening : '{' ∉ s
  closing : '}' ∉ s
  lineFeed : '\n' ∉ s

/-- No brace, no line feed and no double quote. -/
structure Quotable (s : List Char) : Prop extends Flat s where
  quote : '"' ∉ s

theorem flat_nil : Flat [] := ⟨List.not_mem_nil, List.not_mem_nil, List.not_mem_nil⟩

theorem Flat.cons {c : Char} {s : List Char} (hc : c ∉ ['{', '}', '\n']) (hs : Flat s) :
    Flat (c :: s) := by
  simp only [List.mem_cons, List.not_mem_nil, or_false, not_or] at hc
  obtain ⟨h1, h2, h3⟩ := hc
  exact ⟨by simp [Ne.symm h1, hs.opening], by simp [Ne.symm h2, hs.closing],
    by simp [Ne.symm h3, hs.lineFeed]⟩

theorem Flat.append {s t : List Char} (hs : Flat s) (ht : Flat t) : Flat (s ++ t) where
  opening := by simp [hs.opening, ht.opening]
  closing := by simp [hs.closing, ht.closing]
  lineFeed := by simp [hs.lineFeed, ht.lineFeed]

theorem Flat.quoted {s : List Char} (hs : Flat s) : Flat (quoted s) :=
  .cons (by decide) (hs.append (.cons (by decide) flat_nil))

theorem Flat.dropCr {s : List Char} (hs : Flat s) : Flat (dropCr s) where
  opening := fun h => hs.opening (mem_of_mem_dropCr h)
  closing := fun h => hs.closing (mem_of_mem_dropCr h)
  lineFeed := fun h => hs.lineFeed (mem_of_mem_dropCr h)

theorem IsIdentifier.flat {s : List Char} (h : IsIdentifier s) : Flat s := by
  obtain ⟨c, rest, rfl, hc, hrest⟩ := h
  have hmem : ∀ d ∈ c :: rest, isIdentStart d = true ∨ isIdentRest d = true := by
    intro d hd
    rcases List.mem_cons.1 hd with rfl | hd
    · exact Or.inl hc
    · exact Or.inr (hrest d hd)
  constructor <;> intro hd <;> rcases hmem _ hd with h | h <;> exact absurd h (by decide)

theorem Flat.braceDelta_eq {s : List Char} (h : Flat s) : braceDelta s = 0 := by
  rw [braceDelta, List.count_eq_zero_of_not_mem h.opening,
    List.count_eq_zero_of_not_mem h.closing]
  rfl

/-! ## Writing -/

/-- An assignment on a line of its own. -/
structure WrittenSetting where
  key : List Char
  value : List Char
  /-- What is written behind it, after a `#` -/
  comment : Option (List Char)
  identifier : IsIdentifier key
  quotable : Quotable value
  flat : ∀ c ∈ comment, Flat c

/-- A resource with its assignments. -/
structure WrittenBlock where
  type : List Char
  name : List Char
  settings : List WrittenSetting
  type_ne_nil : type ≠ []
  name_ne_nil : name ≠ []
  quotable_type : Quotable type
  quotable_name : Quotable name

/-- A comment behind an assignment. -/
def remark : Option (List Char) → List Char
  | none => []
  | some c => ' ' :: '#' :: ' ' :: c

/-- The line of an assignment after its blanks: `k = "v"`, perhaps with a comment. -/
def WrittenSetting.content (s : WrittenSetting) : List Char :=
  s.key ++ ' ' :: '=' :: ' ' :: (quoted s.value ++ remark s.comment)

/-- The line of an assignment. -/
def WrittenSetting.line (s : WrittenSetting) : List Char := ' ' :: ' ' :: s.content

/-- The assignment itself. -/
def WrittenSetting.pair (s : WrittenSetting) : String × String :=
  (String.ofList s.key, String.ofList s.value)

namespace WrittenBlock

/-- The first line of a block: `resource "T" "N" {`. -/
def header (w : WrittenBlock) : List Char :=
  BlockKind.resource.keyword.toList ++
    (' ' :: quoted w.type ++ (' ' :: quoted w.name ++ [' ', '{']))

/-- The lines of a block. -/
def lines (w : WrittenBlock) : List (List Char) :=
  w.header :: (w.settings.map (·.line) ++ [['}']])

/-- The assignments of a block, in order. -/
def pairs (w : WrittenBlock) : List (String × String) := w.settings.map (·.pair)

end WrittenBlock

/-- The text of some blocks. -/
def written (ws : List WrittenBlock) : String := String.ofList (unlines (ws.flatMap (·.lines)))

/-- Blocks with the numbers of their first lines, the first one being `n`. -/
def placed : Nat → List WrittenBlock → List (Nat × WrittenBlock)
  | _, [] => []
  | n, w :: ws => (n, w) :: placed (n + w.lines.length) ws

/-- The block `b` is what was written as `p.2`, from the line `p.1` on. -/
structure ReadBack (file : String) (p : Nat × WrittenBlock) (b : Block) : Prop where
  file : b.file = file
  type : b.type = String.ofList p.2.type
  name : b.name = String.ofList p.2.name
  reference : b.reference = some (String.ofList p.2.type ++ "." ++ String.ofList p.2.name)
  controls : b.controls = Control.codesOf (String.ofList p.2.type)
  assignments : b.assignments = p.2.pairs
  /-- A key has the value of its last assignment -/
  settings : ∀ key, key ≠ Block.noteKey → b.settings.get? key = p.2.pairs.reverse.lookup key
  firstLine : b.firstLine = p.1
  lastLine : b.lastLine = p.1 + p.2.settings.length + 1

/-! ## Assignments -/

namespace WrittenSetting

variable (s : WrittenSetting)

theorem flat_remark : Flat (remark s.comment) := by
  cases hc : s.comment with
  | none => exact flat_nil
  | some c =>
    have hflat : Flat c := s.flat c (by simp [hc])
    exact .cons (by decide) (.cons (by decide) (.cons (by decide) hflat))

theorem flat_line : Flat s.line := by
  have hvalue : Flat (quoted s.value ++ remark s.comment) :=
    s.quotable.toFlat.quoted.append s.flat_remark
  have hequals : Flat (' ' :: '=' :: ' ' :: (quoted s.value ++ remark s.comment)) :=
    .cons (by decide) (.cons (by decide) (.cons (by decide) hvalue))
  exact .cons (by decide) (.cons (by decide) (s.identifier.flat.append hequals))

/-- Nothing but blanks stands before the comment, also after trimming. -/
theorem cutComment_remark (c : Option (List Char)) :
    trimEnd (cutComment none (trimEnd (remark c))) = [] := by
  cases c with
  | none => rfl
  | some c =>
    have htrim : trimEnd (remark (some c)) = ' ' :: '#' :: trimEnd (' ' :: c) :=
      trimEnd_append (by decide) [' '] (' ' :: c)
    rw [htrim]
    rfl

theorem trim_line :
    trim s.line = s.key ++ ' ' :: '=' :: ' ' :: (quoted s.value ++ trimEnd (remark s.comment)) := by
  have hblank : isBlank ' ' = true := by decide
  rw [line, trim, trimStart_cons_blank hblank, trimStart_cons_blank hblank, content,
    trimStart_identifier s.identifier, quoted_append, quoted_append]
  have hshape : s.key ++ ' ' :: '=' :: ' ' :: '"' :: (s.value ++ '"' :: remark s.comment) =
      (s.key ++ ' ' :: '=' :: ' ' :: '"' :: s.value) ++ '"' :: remark s.comment := by
    simp
  rw [hshape, trimEnd_append (by decide)]
  simp

/-- **The line of an assignment makes this assignment.** -/
theorem assignmentOf?_line : Block.assignmentOf? (trim s.line) = some s.pair := by
  rw [trim_line]
  exact assignmentOf?_quoted s.identifier s.quotable.quote (cutComment_remark s.comment)

end WrittenSetting

/-! ## Blocks -/

namespace WrittenBlock

variable (w : WrittenBlock)

theorem trim_header : trim w.header = w.header := by
  have hshape : w.header = 'r' :: (("esource".toList ++
      (' ' :: quoted w.type ++ (' ' :: quoted w.name ++ [' ']))) ++ '{' :: []) := by
    simp [header, BlockKind.keyword]
  rw [hshape, trim_between (by decide) (by decide)]
  rfl

theorem braceDelta_header : braceDelta w.header = 1 := by
  have hkeyword : braceDelta BlockKind.resource.keyword.toList = 0 := by decide
  have htype : braceDelta (' ' :: quoted w.type) = 0 :=
    (w.quotable_type.toFlat.quoted.cons (by decide)).braceDelta_eq
  have hname : braceDelta (' ' :: quoted w.name) = 0 :=
    (w.quotable_name.toFlat.quoted.cons (by decide)).braceDelta_eq
  have hbrace : braceDelta [' ', '{'] = 1 := by decide
  rw [header, braceDelta_append, braceDelta_append, braceDelta_append, hkeyword, htype, hname,
    hbrace]
  rfl

/-- **The first line of a block opens it.** -/
theorem open?_header : (BlockScanner.resources []).open? w.header = some ⟨w.type, w.name⟩ := by
  refine BlockScanner.open?_resources_eq_some.2 ⟨?_, rfl⟩
  have hkeyword := (dropLeading?_eq_some (s := w.header)).2 rfl
  have htype := Opening.blankLabel?_quoted w.type_ne_nil w.quotable_type.quote
    (' ' :: quoted w.name ++ [' ', '{'])
  have hname := Opening.blankLabel?_quoted w.name_ne_nil w.quotable_name.quote [' ', '{']
  have hbrace : Opening.opensBody [' ', '{'] = true := by decide
  rw [trim_header, Opening.parse?, hkeyword]
  simp only [Option.bind_eq_bind, Option.bind_some, htype, hname, hbrace, if_true]

theorem lineFeed_header : '\n' ∉ w.header := by
  simp [header, quoted, BlockKind.keyword, w.quotable_type.lineFeed, w.quotable_name.lineFeed]

theorem lineFeed_lines : ∀ l ∈ w.lines, '\n' ∉ l := by
  intro l hl
  simp only [lines, List.mem_cons, List.mem_append, List.mem_map, List.not_mem_nil, or_false] at hl
  rcases hl with rfl | ⟨s, -, rfl⟩ | rfl
  · exact w.lineFeed_header
  · exact s.flat_line.lineFeed
  · decide

/-- The lines of a block as they are read: only a comment can lose a carriage
    return at its end. -/
def readLines : List (List Char) :=
  w.header :: (w.settings.map (fun s => dropCr s.line) ++ [['}']])

theorem map_dropCr_lines : w.lines.map dropCr = w.readLines := by
  have hlast : w.header.getLast? = some '{' := by
    rw [header, ← List.append_assoc, ← List.append_assoc, List.getLast?_append]
    rfl
  have hheader : dropCr w.header = w.header := dropCr_of_getLast (by simp [hlast])
  rw [lines, readLines, List.map_cons, hheader, List.map_append, List.map_map]
  rfl

theorem closes_readLines : Closes 0 w.readLines := by
  refine closes_of_level w.braceDelta_header ?_ (by decide)
  intro l hl
  obtain ⟨s, -, rfl⟩ := List.mem_map.1 hl
  exact s.flat_line.dropCr.braceDelta_eq

end WrittenBlock

namespace BlockScanner

theorem assignments_readLines (w : WrittenBlock) :
    (bodyOf w.readLines).filterMap Block.assignmentOf? = w.pairs := by
  have hclose : [trim ['}']].filterMap Block.assignmentOf? = [] := by decide
  have hsettings : ((w.settings.map fun s => dropCr s.line).map trim).filterMap
      Block.assignmentOf? = w.pairs := by
    rw [WrittenBlock.pairs]
    induction w.settings with
    | nil => rfl
    | cons s ss ih =>
      rw [List.map_cons, List.map_cons, trim_dropCr,
        List.filterMap_cons_some s.assignmentOf?_line, ih, List.map_cons]
  rw [WrittenBlock.readLines, bodyOf_cons (by simp), List.map_append, List.filterMap_append,
    hsettings, List.map_singleton, hclose, List.append_nil]

/-- **The block of the lines that were written** is the one that was. -/
theorem readBack_finished (file : String) (n : Nat) (w : WrittenBlock) :
    ReadBack file (n, w)
      ((resources []).finished file ⟨w.type, w.name⟩ n w.readLines) where
  file := rfl
  type := rfl
  name := rfl
  reference := rfl
  controls := rfl
  assignments := assignments_readLines w
  settings := by
    intro key h
    rw [← assignments_readLines w]
    exact coherent_record _ _ _ _ _ _ _ key h
  firstLine := rfl
  lastLine := by
    simp only [finished, record, WrittenBlock.readLines, List.length_cons, List.length_append,
      List.length_map, List.length_nil]
    omega

theorem run_written (file : String) (n : Nat) (ws : List WrittenBlock) :
    List.Forall₂ (ReadBack file) (placed n ws)
      ((resources []).run file n .seeking (ws.flatMap (·.readLines))).2 := by
  induction ws generalizing n with
  | nil => exact .nil
  | cons w ws ih =>
    have hlen : w.readLines.length = w.lines.length := by
      rw [← w.map_dropCr_lines, List.length_map]
    rw [List.flatMap_cons, WrittenBlock.readLines,
      run_layout_block w.open?_header w.closes_readLines n (ws.flatMap (·.readLines)), placed]
    refine .cons (readBack_finished file n w) ?_
    rw [← WrittenBlock.readLines, hlen]
    exact ih _

/-- **What is written is scanned back**: the scan of the text of some blocks
    finds exactly these blocks, in order, each at its place, with its type, its
    name, all of its assignments and the last value of every key. -/
theorem scan_written (file : String) (ws : List WrittenBlock) :
    List.Forall₂ (ReadBack file) (placed 1 ws) ((resources []).scan file (written ws)) := by
  have hfeed : ∀ l ∈ ws.flatMap (·.lines), '\n' ∉ l := by
    intro l hl
    obtain ⟨w, -, hw⟩ := List.mem_flatMap.1 hl
    exact w.lineFeed_lines l hw
  have hlines : Text.lines (written ws).toList = ws.flatMap (·.readLines) := by
    rw [written, String.toList_ofList, lines_unlines_eq hfeed, List.map_flatMap]
    simp only [WrittenBlock.map_dropCr_lines]
  rw [scan_eq_run, hlines]
  exact run_written file 1 ws

example :
    written [{
      type := "aws_s3_bucket".toList
      name := "logs".toList
      settings := [{
        key := "bucket".toList
        value := "a # b's".toList
        comment := some "note".toList
        identifier := ⟨'b', "ucket".toList, rfl, by decide, List.all_eq_true.1 (by decide)⟩
        quotable := ⟨⟨by decide, by decide, by decide⟩, by decide⟩
        flat := by
          rintro c ⟨rfl⟩
          exact ⟨by decide, by decide, by decide⟩ }]
      type_ne_nil := by decide
      name_ne_nil := by decide
      quotable_type := ⟨⟨by decide, by decide, by decide⟩, by decide⟩
      quotable_name := ⟨⟨by decide, by decide, by decide⟩, by decide⟩ }] =
      "resource \"aws_s3_bucket\" \"logs\" \x7b\n  bucket = \"a # b's\" # note\n\x7d\n" := by
  decide

end BlockScanner

end InfraEvidence
