/-
  InfraEvidence — the notes of a block.

  A block gathers its notable lines under `Block.noteKey`.  But an assignment to
  this very key, a notable line itself, puts its value in the place of all that
  was gathered before it.

  * `Block.noted`: the lines of a body that belong among the notes;
  * `Block.gather`: what a line makes of the lines under `noteKey`;
    `Block.get?_foldl_settle_noteKey`: the settings of a block hold what its
    lines make of none;
  * `Block.foldl_gather_cases`: these are all the lines that belong there, or
    the last value assigned to the key and the lines from this assignment on;
  * `BlockScanner.notes_iff`: so there are notes as soon as one line belongs
    among them, and none of them is missing exactly if nothing was gathered
    before an assignment to the key, other than its value;
  * `BlockScanner.notes_overwritten`: a block with a line that is missing.
-/
import Mathlib.Data.List.Basic
import InfraEvidence.Proofs.Scan.Provenance
import InfraEvidence.Proofs.Text.Lowered

namespace InfraEvidence

open Text

/-! ## Dividing a list -/

theorem forall_or_exists_last {α : Type} (p : α → Prop) (l : List α) :
    (∀ x ∈ l, p x) ∨ ∃ as x bs, l = as ++ x :: bs ∧ ¬ p x ∧ ∀ y ∈ bs, p y := by
  induction l with
  | nil => exact Or.inl (by simp)
  | cons x l ih =>
    rcases ih with hl | ⟨as, y, bs, rfl, hy, hbs⟩
    · by_cases hx : p x
      · exact Or.inl (List.forall_mem_cons.2 ⟨hx, hl⟩)
      · exact Or.inr ⟨[], x, l, rfl, hx, hl⟩
    · exact Or.inr ⟨x :: as, y, bs, rfl, hy, hbs⟩

/-- One list, divided at two places: they are the same, or the second one comes
    before the first one, or after it. -/
theorem append_cons_cases {α : Type} {as bs cs ds : List α} {x y : α}
    (h : as ++ x :: bs = cs ++ y :: ds) :
    (as = cs ∧ x = y ∧ bs = ds) ∨ (∃ mid, as = cs ++ y :: mid) ∨ y ∈ bs := by
  rcases List.append_eq_append_iff.1 h with ⟨mid, rfl, hmid⟩ | ⟨mid, rfl, hmid⟩
  · cases mid with
    | nil =>
      obtain ⟨rfl, rfl⟩ := List.cons.inj hmid
      exact Or.inl ⟨(List.append_nil as).symm, rfl, rfl⟩
    | cons z mid =>
      obtain ⟨-, rfl⟩ := List.cons.inj hmid
      exact Or.inr (Or.inr (by simp))
  · cases mid with
    | nil =>
      obtain ⟨rfl, rfl⟩ := List.cons.inj hmid
      exact Or.inl ⟨List.append_nil cs, rfl, rfl⟩
    | cons z mid =>
      obtain ⟨rfl, -⟩ := List.cons.inj hmid
      exact Or.inr (Or.inl ⟨mid, rfl⟩)

namespace Block

/-! ## The entry of the notes -/

/-- The trimmed lines that belong among the notes: notable ones, no comments. -/
def noted (body : List (List Char)) : List (List Char) :=
  body.filter fun line => !isComment line && isNotable line

/-- The lines under `noteKey` after an assignment: its value, if it is one to
    this key, and otherwise the lines of before. -/
def replaced (notes : List (List Char)) : Option (String × String) → List (List Char)
  | some (key, value) => if key = noteKey then [value.toList] else notes
  | none => notes

/-- The lines under `noteKey` after a trimmed line. -/
def gather (notes : List (List Char)) (line : List Char) : List (List Char) :=
  replaced notes (assignmentOf? line) ++ noted [line]

/-- The entry that lines are kept in; without a line there is none. -/
def entryOf : List (List Char) → Option String
  | [] => none
  | l :: ls => some (joinWith "\n" ((l :: ls).map String.ofList))

section
variable {d : Dict String} {notes : List (List Char)} (h : d.get? noteKey = entryOf notes)
include h

theorem get?_assign_noteKey (p : Option (String × String)) :
    (assign d p).get? noteKey = entryOf (replaced notes p) := by
  cases p with
  | none => exact h
  | some p =>
    obtain ⟨key, value⟩ := p
    rw [assign, Dict.get?_insert, replaced]
    by_cases hkey : key = noteKey
    · rw [if_pos hkey.symm, if_pos hkey]
      simp [entryOf, joinWith]
    · rw [if_neg (Ne.symm hkey), if_neg hkey, h]

theorem get?_note_noteKey (line : List Char) :
    (note d line).get? noteKey = entryOf (notes ++ [line]) := by
  rw [note, Dict.addTo, Dict.get?_insert, if_pos rfl, h]
  cases notes with
  | nil => simp [entryOf, joinWith]
  | cons l ls =>
    have hjoin : String.intercalate "\n" ((l :: ls).map String.ofList ++ [String.ofList line]) =
        String.intercalate "\n" ((l :: ls).map String.ofList) ++ "\n" ++ String.ofList line := by
      rw [String.intercalate_append_of_ne_nil (by simp) (by simp), String.intercalate_singleton]
    rw [List.cons_append, entryOf, entryOf, ← List.cons_append, List.map_append, List.map_singleton,
      joinWith, joinWith, hjoin]
    rfl

/-- **What a line does to the entry of the notes.** -/
theorem get?_settle_noteKey (line : List Char) :
    (settle d line).get? noteKey = entryOf (gather notes line) := by
  unfold settle gather assignmentOf? noted
  by_cases hc : isComment line = true
  · simp [hc, replaced, h]
  · have hassign := get?_assign_noteKey h (assignment? line)
    by_cases hn : isNotable line = true
    · simp [hc, hn, get?_note_noteKey hassign]
    · simp [hc, hn, hassign]

theorem get?_foldl_settle_noteKey (body : List (List Char)) :
    (body.foldl settle d).get? noteKey = entryOf (body.foldl gather notes) := by
  induction body generalizing d notes with
  | nil => exact h
  | cons line body ih => exact ih (get?_settle_noteKey h line)

end

theorem isSome_entryOf (ls : List (List Char)) : (entryOf ls).isSome = true ↔ ls ≠ [] := by
  cases ls <;> simp [entryOf]

theorem splitOn_of_entryOf {ls : List (List Char)} {notes : String}
    (h : entryOf ls = some notes) (hfeed : ∀ l ∈ ls, '\n' ∉ l) :
    notes.toList.splitOn '\n' = ls := by
  cases ls with
  | nil => contradiction
  | cons l ls =>
    obtain rfl := Option.some.inj h
    have hlines : ((l :: ls).map String.ofList).map String.toList = l :: ls := by
      rw [List.map_map, List.map_congr_left (g := id), List.map_id]
      exact fun s _ => String.toList_ofList
    rw [joinWith, String.toList_intercalate, hlines]
    exact List.splitOn_intercalate '\n' hfeed (List.cons_ne_nil _ _)

/-! ## The lines that are left -/

theorem noted_append (as bs : List (List Char)) : noted (as ++ bs) = noted as ++ noted bs :=
  List.filter_append ..

theorem noted_cons (line : List Char) (body : List (List Char)) :
    noted (line :: body) = noted [line] ++ noted body := noted_append [line] body

/-- **An assignment to the key of the notes is a notable line**, by its key. -/
theorem noted_of_assigns {line : List Char} {value : String} (h : Assigns line noteKey value) :
    noted [line] = [line] := by
  obtain ⟨name, gap, rhs, rfl, hname, -, hkey, -⟩ := h
  have hname' : name = "security".toList ++ "_config".toList := by
    rw [← String.ofList_inj, ← hkey]
    rfl
  have hlower : lower (name ++ (gap ++ '=' :: rhs)) =
      [] ++ "security".toList ++
        ("_config".toList ++ lowerAfter name.reverse (gap ++ '=' :: rhs)) := by
    have hascii : ∀ c ∈ name, c.toNat < 0x80 := by
      intro c hc
      have := (toNat_of_isIdentRest (hname.forall_isIdentRest c hc)).2
      omega
    rw [lower, lowerAfter_append_ascii [] hascii, List.append_nil, hname']
    rfl
  have hnotable : isNotable (name ++ (gap ++ '=' :: rhs)) = true :=
    List.any_eq_true.2 ⟨"security", by decide, contains_iff.2 ⟨_, _, hlower⟩⟩
  rw [noted, List.filter_singleton, hnotable, not_isComment_append hname]
  rfl

theorem noted_append_assigns {line : List Char} {value : String}
    (h : Assigns line noteKey value) (before after : List (List Char)) :
    noted (before ++ line :: after) = noted before ++ line :: noted after := by
  rw [noted_append, noted_cons line, noted_of_assigns h, List.singleton_append]

/-- A trimmed line that assigns nothing to the key of the notes. -/
def KeepsNotes (line : List Char) : Prop := ∀ value, assignmentOf? line ≠ some (noteKey, value)

theorem gather_of_keepsNotes {line : List Char} (h : KeepsNotes line) (notes : List (List Char)) :
    gather notes line = notes ++ noted [line] := by
  unfold gather
  cases hp : assignmentOf? line with
  | none => rfl
  | some p =>
    have hkey : p.1 ≠ noteKey := by
      intro hkey
      exact h p.2 (hkey ▸ hp)
    rw [replaced, if_neg hkey]

/-- Without an assignment to their key the notes only grow. -/
theorem foldl_gather_of_keepsNotes {body : List (List Char)} (h : ∀ line ∈ body, KeepsNotes line)
    (notes : List (List Char)) : body.foldl gather notes = notes ++ noted body := by
  induction body generalizing notes with
  | nil => exact (List.append_nil notes).symm
  | cons line body ih =>
    obtain ⟨hline, hbody⟩ := List.forall_mem_cons.1 h
    rw [List.foldl_cons, gather_of_keepsNotes hline, ih hbody, List.append_assoc,
      noted_cons line body]

/-- **An assignment to the key of the notes** is where the notes begin anew. -/
theorem foldl_gather_of_assigns {line : List Char} {value : String}
    (h : Assigns line noteKey value) {after : List (List Char)}
    (hafter : ∀ l ∈ after, KeepsNotes l) (before notes : List (List Char)) :
    (before ++ line :: after).foldl gather notes = value.toList :: line :: noted after := by
  rw [List.foldl_append, List.foldl_cons, foldl_gather_of_keepsNotes hafter, gather,
    (assigns_iff.1 h).2, noted_of_assigns h, replaced, if_pos rfl]
  rfl

theorem lineFeed_gather {notes : List (List Char)} {line : List Char}
    (hnotes : ∀ l ∈ notes, '\n' ∉ l) (hline : '\n' ∉ line) :
    ∀ l ∈ gather notes line, '\n' ∉ l := by
  intro l hl
  rcases List.mem_append.1 hl with hl | hl
  · cases hp : assignmentOf? line with
    | none =>
      rw [hp] at hl
      exact hnotes l hl
    | some p =>
      rw [hp, replaced] at hl
      split at hl
      · obtain rfl := List.mem_singleton.1 hl
        exact fun hfeed => hline ((statedIn_of_assignmentOf? hp).value_subset hfeed)
      · exact hnotes l hl
  · obtain rfl := List.mem_singleton.1 (List.mem_filter.1 hl).1
    exact hline

theorem lineFeed_foldl_gather {body notes : List (List Char)} (hbody : ∀ l ∈ body, '\n' ∉ l)
    (hnotes : ∀ l ∈ notes, '\n' ∉ l) : ∀ l ∈ body.foldl gather notes, '\n' ∉ l := by
  induction body generalizing notes with
  | nil => exact hnotes
  | cons line body ih =>
    obtain ⟨hline, hbody⟩ := List.forall_mem_cons.1 hbody
    exact ih hbody (lineFeed_gather hnotes hline)

section
variable {body : List (List Char)} (htrim : ∀ line ∈ body, trimStart line = line)
include htrim

/-- **The notes that trimmed lines make**: all that belong there, or what the
    last assignment to their key has left. -/
theorem foldl_gather_cases :
    ((∀ line ∈ body, KeepsNotes line) ∧ body.foldl gather [] = noted body) ∨
      ∃ before line after value, body = before ++ line :: after ∧ Assigns line noteKey value ∧
        (∀ l ∈ after, KeepsNotes l) ∧
        body.foldl gather [] = value.toList :: line :: noted after := by
  rcases forall_or_exists_last KeepsNotes body with h | ⟨before, line, after, rfl, hline, hafter⟩
  · exact Or.inl ⟨h, by rw [foldl_gather_of_keepsNotes h, List.nil_append]⟩
  · obtain ⟨value, hvalue⟩ : ∃ value, assignmentOf? line = some (noteKey, value) := by
      simpa [KeepsNotes] using hline
    have hassigns : Assigns line noteKey value := assigns_iff.2 ⟨htrim line (by simp), hvalue⟩
    exact Or.inr ⟨before, line, after, value, rfl, hassigns, hafter,
      foldl_gather_of_assigns hassigns hafter before []⟩

theorem foldl_gather_ne_nil_iff : body.foldl gather [] ≠ [] ↔ noted body ≠ [] := by
  rcases foldl_gather_cases htrim with ⟨-, h⟩ | ⟨before, line, after, value, rfl, hassigns, -, h⟩
  · rw [h]
  · rw [h, noted_append_assigns hassigns]
    simp

/-- **No line is missing from the notes** exactly if nothing belonged there
    before an assignment to their key, or nothing but its value. -/
theorem noted_sublist_iff :
    (noted body).Sublist (body.foldl gather []) ↔
      ∀ before line after value, body = before ++ line :: after → Assigns line noteKey value →
        noted before = [] ∨ noted before = [value.toList] := by
  rcases foldl_gather_cases htrim with
    ⟨hkeep, h⟩ | ⟨before, line, after, value, rfl, hassigns, hafter, h⟩
  · rw [h]
    refine iff_of_true (List.Sublist.refl _) fun before line after value he hassigns => ?_
    exact absurd (assigns_iff.1 hassigns).2 (hkeep line (by simp [he]) value)
  · have hlast : value.toList :: line :: noted after = [value.toList] ++ line :: noted after := rfl
    rw [h, noted_append_assigns hassigns, hlast, List.append_sublist_append_right,
      List.sublist_singleton]
    constructor
    · intro hbefore before' line' after' value' he hassigns'
      rcases append_cons_cases he with ⟨rfl, rfl, -⟩ | ⟨mid, rfl⟩ | hline'
      · have hvalue : some (noteKey, value) = some (noteKey, value') :=
          (assigns_iff.1 hassigns).2.symm.trans (assigns_iff.1 hassigns').2
        obtain rfl : value = value' := (Prod.mk.inj (Option.some.inj hvalue)).2
        exact hbefore
      · -- an assignment before the last one is noted itself, so nothing else is
        rw [noted_append_assigns hassigns'] at hbefore
        have hlen := (List.sublist_singleton.2 hbefore).length_le
        simp only [List.length_append, List.length_cons, List.length_nil] at hlen
        exact Or.inl (List.length_eq_zero_iff.1 (by omega))
      · exact absurd (assigns_iff.1 hassigns').2 (hafter line' hline' value')
    · intro hall
      exact hall before line after value rfl hassigns

end

end Block

/-! ## Blocks -/

namespace BlockScanner

variable {sc : BlockScanner} {file text : String} {b : Block}

theorem get?_noteKey_of_mem_scan (hb : b ∈ sc.scan file text) :
    b.settings.get? Block.noteKey =
      Block.entryOf ((bodyOf (lines b.rawText.toList)).foldl Block.gather []) := by
  rw [settings_of_mem_scan hb]
  exact Block.get?_foldl_settle_noteKey rfl _

/-- **When the notes of a block are complete.**  A block of several lines has
    notes exactly if some line after the first one belongs among them; and they
    have all these lines, in order, exactly if nothing belongs among them
    before a line that assigns a value to their key, or nothing but this value. -/
theorem notes_iff (hb : b ∈ sc.scan file text) (hlines : b.firstLine < b.lastLine) :
    let body := (lines b.rawText.toList).tail.map trim
    ((b.settings.get? Block.noteKey).isSome = true ↔ Block.noted body ≠ []) ∧
      ∀ notes, b.settings.get? Block.noteKey = some notes →
        ((Block.noted body).Sublist (notes.toList.splitOn '\n') ↔
          ∀ before line after value, body = before ++ line :: after →
            Assigns line Block.noteKey value →
            Block.noted before = [] ∨ Block.noted before = [value.toList]) := by
  intro body
  have hbody : bodyOf (lines b.rawText.toList) = body := bodyOf_of_mem_scan hb hlines
  have hget : b.settings.get? Block.noteKey = Block.entryOf (body.foldl Block.gather []) := by
    rw [get?_noteKey_of_mem_scan hb, hbody]
  have htrim : ∀ line ∈ body, trimStart line = line := by
    rw [← hbody]
    exact fun line => trimStart_of_mem_bodyOf
  have hfeed : ∀ line ∈ body, '\n' ∉ line := by
    intro line hline
    obtain ⟨l, hl, rfl⟩ := List.mem_map.1 hline
    exact fun hn => lineFeed_lines (List.mem_of_mem_tail hl) ((infix_trim l).subset hn)
  refine ⟨?_, fun notes hnotes => ?_⟩
  · rw [hget, Block.isSome_entryOf, Block.foldl_gather_ne_nil_iff htrim]
  · rw [hget] at hnotes
    rw [Block.splitOn_of_entryOf hnotes (Block.lineFeed_foldl_gather hfeed (by simp)),
      Block.noted_sublist_iff htrim]

/-- The value of the assignment is the line that was gathered before it. -/
theorem notes_complete_locals :
    let sc : BlockScanner := ⟨.locals, []⟩
    let text := "locals \x7b\n  policy\n  security_config = policy\n\x7d\n"
    ∃ b ∈ sc.scan "main.tf" text, b.firstLine < b.lastLine ∧
      (b.settings.get? Block.noteKey).isSome = true ∧
      ∀ before line after value,
        (lines b.rawText.toList).tail.map trim = before ++ line :: after →
        Assigns line Block.noteKey value →
        Block.noted before = [] ∨ Block.noted before = [value.toList] := by
  intro sc text
  have hfound : ∃ b ∈ sc.scan "main.tf" text, b.firstLine < b.lastLine ∧
      b.settings.get? Block.noteKey = some "policy\nsecurity_config = policy" ∧
      Block.noted ((lines b.rawText.toList).tail.map trim) =
        ["policy".toList, "security_config = policy".toList] := by
    decide +kernel
  obtain ⟨b, hb, hlines, hnotes, hnoted⟩ := hfound
  obtain ⟨hsome, hcomplete⟩ := notes_iff hb hlines
  refine ⟨b, hb, hlines, hsome.2 (by rw [hnoted]; simp), (hcomplete _ hnotes).1 ?_⟩
  rw [hnoted]
  decide

/-- **A notable line can be missing**: an assignment to the key of the notes
    comes after it. -/
theorem notes_overwritten :
    let text := "resource \"aws_iam_role\" \"admin\" \x7b\n  policy = \"public\"\n" ++
      "  security_config = \"off\"\n\x7d\n"
    ∃ b ∈ (resources []).scan "main.tf" text, b.firstLine < b.lastLine ∧
      let noted := Block.noted ((lines b.rawText.toList).tail.map trim)
      noted = ["policy = \"public\"".toList, "security_config = \"off\"".toList] ∧
        ∃ notes, b.settings.get? Block.noteKey = some notes ∧
          ¬ noted.Sublist (notes.toList.splitOn '\n') := by
  intro text
  have hfound : ∃ b ∈ (resources []).scan "main.tf" text, b.firstLine < b.lastLine ∧
      b.settings.get? Block.noteKey = some "off\nsecurity_config = \"off\"" ∧
      Block.noted ((lines b.rawText.toList).tail.map trim) =
        ["policy = \"public\"".toList, "security_config = \"off\"".toList] := by
    decide +kernel
  obtain ⟨b, hb, hlines, hnotes, hnoted⟩ := hfound
  refine ⟨b, hb, hlines, hnoted, _, hnotes, ?_⟩
  rw [hnoted]
  decide

end BlockScanner

end InfraEvidence
