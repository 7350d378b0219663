/-
  InfraEvidence — the block that some lines make.

  * `Block.assignmentOf?`, `Block.settle`: the assignment of a trimmed line,
    and what the line makes of the settings;
  * `Block.readLine_eq`: reading a line changes these two parts of a block and
    nothing else;
  * `Block.get?_foldl_settle`: what lines make of one key;
  * `BlockScanner.record`: a block written out field by field, from its
    opening, the trimmed lines of its body and the lines of its text;
  * `begin_eq`, `absorb_record`, `oneLine_record`: the scanner builds records;
  * `coherent_record`: a record is coherent.
-/
import InfraEvidence.Block.Scan
import InfraEvidence.Text.Lines

namespace InfraEvidence

open Text

namespace Block

/-- The assignment that a trimmed line makes in its block; a comment makes none. -/
def assignmentOf? (line : List Char) : Option (String × String) :=
  if isComment line then none else assignment? line

/-- The settings with the assignment of a line, if it makes one. -/
def assign (d : Dict String) : Option (String × String) → Dict String
  | some (key, value) => d.insert key value
  | none => d

/-- The settings with a line among the notes. -/
def note (d : Dict String) (line : List Char) : Dict String :=
  d.addTo noteKey (fun notes => notes ++ "\n" ++ String.ofList line) (String.ofList line)

/-- What a trimmed line makes of the settings of its block. -/
def settle (d : Dict String) (line : List Char) : Dict String :=
  if isComment line then d
  else if isNotable line then note (assign d (assignment? line)) line
  else assign d (assignment? line)

theorem addAssignment_eq (b : Block) (line : List Char) :
    b.addAssignment line =
      { b with
        assignments := b.assignments ++ (assignment? line).toList
        settings := assign b.settings (assignment? line) } := by
  unfold addAssignment
  cases assignment? line with
  | none => simp [assign]
  | some p => rfl

/-- **Reading a line changes the assignments and the settings only.** -/
theorem readLine_eq (b : Block) (line : List Char) :
    b.readLine line =
      { b with
        assignments := b.assignments ++ (assignmentOf? line).toList
        settings := settle b.settings line } := by
  unfold readLine assignmentOf? settle
  by_cases hc : isComment line = true
  · simp [hc]
  · by_cases hn : isNotable line = true
    · simp [hc, hn, addAssignment_eq, addNote, note]
    · simp [hc, hn, addAssignment_eq]

theorem lookup_singleton {α : Type} (key k : String) (v : α) :
    [(k, v)].lookup key = if key = k then some v else none := by
  by_cases h : key = k
  · rw [h, List.lookup_cons_self, if_pos rfl]
  · have hb : (key == k) = false := by simpa using h
    rw [List.lookup_cons, hb, if_neg h]
    rfl

theorem get?_assign (d : Dict String) (p : Option (String × String)) (key : String) :
    (assign d p).get? key = (p.toList.lookup key).or (d.get? key) := by
  cases p with
  | none => rfl
  | some p =>
    obtain ⟨k, v⟩ := p
    rw [assign, Dict.get?_insert, Option.toList_some, lookup_singleton]
    split <;> simp

theorem get?_note (d : Dict String) (line : List Char) {key : String} (h : key ≠ noteKey) :
    (note d line).get? key = d.get? key := by
  rw [note, Dict.addTo, Dict.get?_insert, if_neg h]

theorem get?_settle (d : Dict String) (line : List Char) {key : String} (h : key ≠ noteKey) :
    (settle d line).get? key = ((assignmentOf? line).toList.lookup key).or (d.get? key) := by
  unfold settle assignmentOf?
  by_cases hc : isComment line = true
  · simp [hc]
  · by_cases hn : isNotable line = true
    · simp [hc, hn, get?_note _ _ h, get?_assign]
    · simp [hc, hn, get?_assign]

/-- **After some lines a key has the value of its last assignment**, or the
    one it had before, notes aside. -/
theorem get?_foldl_settle (body : List (List Char)) (d : Dict String) {key : String}
    (h : key ≠ noteKey) :
    (body.foldl settle d).get? key =
      ((body.filterMap assignmentOf?).reverse.lookup key).or (d.get? key) := by
  induction body generalizing d with
  | nil => rfl
  | cons line body ih =>
    have hsplit : (line :: body).filterMap assignmentOf? =
        (assignmentOf? line).toList ++ body.filterMap assignmentOf? := by
      cases ha : assignmentOf? line <;> simp [ha]
    have hone : (assignmentOf? line).toList.reverse = (assignmentOf? line).toList := by
      cases assignmentOf? line <;> rfl
    rw [List.foldl_cons, ih, get?_settle _ _ h, hsplit, List.reverse_append, hone,
      List.lookup_append, Option.or_assoc]

end Block

namespace BlockScanner

/-- How other blocks refer to the block of an opening. -/
def referenceOf (sc : BlockScanner) (o : Opening) : Option String :=
  match sc.kind with
  | .resource | .moduleCall => some (String.ofList o.type ++ "." ++ String.ofList o.name)
  | .dataSource | .locals => none

/-- The control codes of the block of an opening. -/
def controlsOf (sc : BlockScanner) (o : Opening) : NameSet :=
  match sc.kind with
  | .resource => Control.codesOf (String.ofList o.type)
  | _ => NameSet.empty

/-- The block of an opening from line `first` to line `last`: `body` are the
    trimmed lines that its settings are read from, `span` is its text. -/
def record (sc : BlockScanner) (file : String) (o : Opening) (first last : Nat)
    (body span : List (List Char)) : Block where
  file := file
  type := String.ofList o.type
  name := String.ofList o.name
  firstLine := first
  lastLine := last
  settings := body.foldl Block.settle Dict.empty
  assignments := body.filterMap Block.assignmentOf?
  rawText := String.ofList (unlines span)
  reference := sc.referenceOf o
  controls := sc.controlsOf o

/-- What a line inside of a block makes of it. -/
def absorb (b : Block) (line : List Char) : Block := (addText b line).readLine (trim line)

variable (sc : BlockScanner) (file : String) (o : Opening)

theorem begin_eq (n : Nat) :
    sc.begin file n o =
      { Block.starting file (String.ofList o.type) (String.ofList o.name) n with
        reference := sc.referenceOf o
        controls := sc.controlsOf o } := by
  unfold begin referenceOf controlsOf
  cases sc.kind <;> rfl

theorem filterMap_assignmentOf (line : List Char) :
    [line].filterMap Block.assignmentOf? = (Block.assignmentOf? line).toList := by
  cases h : Block.assignmentOf? line <;> simp [h]

theorem addText_begin (n : Nat) (line : List Char) :
    addText (sc.begin file n o) line = sc.record file o n n [] [line] := by
  rw [begin_eq]
  simp [addText, record, Block.starting, unlines]

theorem absorb_record (first last : Nat) (body span : List (List Char)) (line : List Char) :
    absorb (sc.record file o first last body span) line =
      sc.record file o first last (body ++ [trim line]) (span ++ [line]) := by
  unfold absorb
  rw [Block.readLine_eq]
  simp [addText, record, unlines, String.ofList_append, filterMap_assignmentOf]

theorem oneLine_record (n : Nat) (line : List Char) :
    oneLine (sc.begin file n o) line =
      sc.record file o n n ((betweenBraces? line).toList.map trim) [line] := by
  unfold oneLine
  rw [begin_eq]
  cases betweenBraces? line with
  | none => simp [addText, record, Block.starting, unlines]
  | some inner =>
    simp [addText, record, Block.readLine_eq, Block.starting, unlines, filterMap_assignmentOf]

/-- **The settings of a record agree with its assignments.** -/
theorem coherent_record (first last : Nat) (body span : List (List Char)) :
    (sc.record file o first last body span).Coherent := by
  intro key h
  have hget := Block.get?_foldl_settle body Dict.empty h
  rwa [show (Dict.empty : Dict String).get? key = none from rfl, Option.or_none] at hget

end BlockScanner

end InfraEvidence
