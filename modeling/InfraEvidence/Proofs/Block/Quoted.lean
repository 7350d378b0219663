/-
  InfraEvidence — reading quoted texts.

  * `label?_quoted`, `blankLabel?_quoted`: a label in quotes is read as what
    stands between them;
  * `IsIdentifier`, `identifier?_of_isIdentifier`: an identifier is read up to the first
    character that cannot be part of one;
  * `assignmentOf?_equals`: a line with an identifier and an equals sign is an
    assignment;
  * `cleanValue_quoted`: a value in double quotes is what stands between them,
    also with a comment behind;
  * `assignmentOf?_quoted`: so with a value in quotes behind the equals sign it
    is the assignment of the one to the other.
-/
import InfraEvidence.Block.Opening
import InfraEvidence.Proofs.Block.Record
import InfraEvidence.Proofs.Block.Value

namespace InfraEvidence

open Text

/-- A text between double quotes. -/
def quoted (s : List Char) : List Char := '"' :: (s ++ ['"'])

theorem quoted_append (s t : List Char) : quoted s ++ t = '"' :: (s ++ '"' :: t) := by
  simp [quoted]

/-! ## Labels -/

theorem bne_quote {s : List Char} (h : '"' ∉ s) : ∀ c ∈ s, (c != '"') = true := by
  intro c hc
  rw [bne_iff_ne]
  rintro rfl
  exact h hc

theorem takeWhile_quote {s : List Char} (h : '"' ∉ s) (t : List Char) :
    (s ++ '"' :: t).takeWhile (· != '"') = s := by
  rw [List.takeWhile_append_of_pos (bne_quote h), List.takeWhile_cons_of_neg (by simp),
    List.append_nil]

theorem dropWhile_quote {s : List Char} (h : '"' ∉ s) (t : List Char) :
    (s ++ '"' :: t).dropWhile (· != '"') = '"' :: t := by
  rw [List.dropWhile_append_of_pos (bne_quote h), List.dropWhile_cons_of_neg (by simp)]

theorem Opening.label?_quoted {s : List Char} (hne : s ≠ []) (h : '"' ∉ s) (t : List Char) :
    label? (quoted s ++ t) = some (s, t) := by
  obtain ⟨c, cs, rfl⟩ := List.exists_cons_of_ne_nil hne
  rw [quoted_append, label?, takeWhile_quote h, dropWhile_quote h]

theorem Opening.blankLabel?_quoted {s : List Char} (hne : s ≠ []) (h : '"' ∉ s) (t : List Char) :
    blankLabel? (' ' :: quoted s ++ t) = some (s, t) := by
  have hb : blanks? (' ' :: quoted s ++ t) = some (quoted s ++ t) := by
    rw [List.cons_append, blanks?, if_pos (by decide), quoted_append,
      trimStart_cons (by decide)]
  rw [blankLabel?, hb, Option.bind_some, label?_quoted hne h]

/-! ## Keys -/

/-- A letter or an underscore, then letters, digits and underscores. -/
def IsIdentifier (s : List Char) : Prop :=
  ∃ c rest, s = c :: rest ∧ isIdentStart c = true ∧ ∀ d ∈ rest, isIdentRest d = true

theorem identifier?_of_isIdentifier {s : List Char} (h : IsIdentifier s) {c : Char}
    (hc : isIdentRest c = false) (t : List Char) :
    identifier? (s ++ c :: t) = some (s, c :: t) := by
  obtain ⟨d, rest, rfl, hd, hrest⟩ := h
  have hc' : ¬ isIdentRest c = true := by simp [hc]
  rw [List.cons_append, identifier?, if_pos hd, List.takeWhile_append_of_pos hrest,
    List.dropWhile_append_of_pos hrest, List.takeWhile_cons_of_neg hc',
    List.dropWhile_cons_of_neg hc', List.append_nil]

theorem not_isComment_append {s : List Char} (h : IsIdentifier s) (t : List Char) :
    isComment (s ++ t) = false := by
  obtain ⟨d, rest, rfl, hd, -⟩ := h
  have hsharp : d ≠ '#' := by rintro rfl; exact absurd hd (by decide)
  have hslash : d ≠ '/' := by rintro rfl; exact absurd hd (by decide)
  have hslashes : "//".toList.isPrefixOf (d :: rest ++ t) = false := by
    rw [Bool.eq_false_iff]
    intro h
    obtain ⟨u, hu⟩ := List.isPrefixOf_iff_prefix.1 h
    exact hslash (List.cons.inj hu).1.symm
  rw [isComment, hslashes]
  simp [hsharp]

theorem trimStart_identifier {s : List Char} (h : IsIdentifier s) (t : List Char) :
    trimStart (s ++ t) = s ++ t := by
  obtain ⟨d, rest, rfl, hd, -⟩ := h
  exact trimStart_cons (isBlank_of_isIdentStart hd) _

/-- **An identifier, blanks, and an equals sign** make an assignment of what
    follows. -/
theorem assignmentOf?_equals {key gap : List Char} (hkey : IsIdentifier key)
    (hgap : ∀ c ∈ gap, isBlank c = true) (rhs : List Char) :
    Block.assignmentOf? (key ++ (gap ++ '=' :: rhs)) =
      some (String.ofList key, String.ofList (cleanValue rhs)) := by
  have hname : identifier? (key ++ (gap ++ '=' :: rhs)) = some (key, gap ++ '=' :: rhs) := by
    cases gap with
    | nil => exact identifier?_of_isIdentifier hkey (by decide) rhs
    | cons c gap =>
      have hc : isIdentRest c = false := by
        rw [Bool.eq_false_iff]
        intro h
        exact absurd (hgap c List.mem_cons_self) (by simp [isBlank_of_isIdentRest h])
      exact identifier?_of_isIdentifier hkey hc _
  have hequals : trimStart (gap ++ '=' :: rhs) = '=' :: rhs := by
    rw [trimStart_append_blanks (List.all_eq_true.2 hgap), trimStart_cons (by decide)]
  rw [Block.assignmentOf?, if_neg (by simp [not_isComment_append hkey]), assignment?,
    trimStart_identifier hkey, hname, Option.bind_eq_bind, Option.bind_some]
  simp only [hequals]

/-! ## Values -/

/-- **A value in quotes is what stands between them**, if only blanks and a
    comment follow. -/
theorem cleanValue_quoted {s t : List Char} (h : '"' ∉ s)
    (ht : trimEnd (cutComment none t) = []) :
    cleanValue (' ' :: (quoted s ++ t)) = s := by
  have hblank : allBlank [' '] = true := by decide
  rw [quoted_append]
  exact cleanValue_between (Or.inl rfl) hblank h ht

/-- **An identifier, an equals sign and a value in quotes** make an assignment. -/
theorem assignmentOf?_quoted {key value t : List Char} (hkey : IsIdentifier key)
    (hvalue : '"' ∉ value) (ht : trimEnd (cutComment none t) = []) :
    Block.assignmentOf? (key ++ ' ' :: '=' :: ' ' :: (quoted value ++ t)) =
      some (String.ofList key, String.ofList value) := by
  have hgap : ∀ c ∈ [' '], isBlank c = true := List.forall_mem_singleton.2 (by decide)
  rw [show ' ' :: '=' :: ' ' :: (quoted value ++ t) = [' '] ++ '=' :: ' ' :: (quoted value ++ t)
    from rfl, assignmentOf?_equals hkey hgap, cleanValue_quoted hvalue ht]

end InfraEvidence
