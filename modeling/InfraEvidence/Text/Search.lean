/-
  InfraEvidence — searching a text.

  * `contains`: a text occurs in another one;
  * `dropLeading?`: what follows a given beginning;
  * `replaceAll`: every occurrence of a non-empty text replaced, from left to
    right and without overlap;
  * `betweenBraces?`: what stands between the first `{` and the last `}`.
-/
namespace InfraEvidence.Text

/-- What follows `start` in a text that begins with it. -/
def dropLeading? : List Char → List Char → Option (List Char)
  | [], s => some s
  | _ :: _, [] => none
  | c :: start, d :: s => if c = d then dropLeading? start s else none

theorem dropLeading?_eq_some {start s rest : List Char} :
    dropLeading? start s = some rest ↔ s = start ++ rest := by
  induction start generalizing s with
  | nil => simp [dropLeading?]
  | cons c start ih =>
    cases s with
    | nil => simp [dropLeading?]
    | cons d s =>
      by_cases h : c = d
      · subst h; simp [dropLeading?, ih]
      · simp [dropLeading?, h, Ne.symm h]

/-- The text `part` occurs in the text. -/
def contains (part : List Char) : List Char → Bool
  | [] => part.isEmpty
  | c :: s => part.isPrefixOf (c :: s) || contains part s

theorem contains_iff {part s : List Char} :
    contains part s = true ↔ ∃ before after, s = before ++ part ++ after := by
  induction s with
  | nil => cases part <;> simp [contains]
  | cons c s ih =>
    simp only [contains, Bool.or_eq_true, List.isPrefixOf_iff_prefix, ih]
    constructor
    · rintro (⟨after, h⟩ | ⟨before, after, rfl⟩)
      · exact ⟨[], after, by simp [h]⟩
      · exact ⟨c :: before, after, by simp⟩
    · rintro ⟨before, after, h⟩
      cases before with
      | nil => exact Or.inl ⟨after, by simpa using h.symm⟩
      | cons d before =>
        simp only [List.cons_append, List.cons.injEq] at h
        exact Or.inr ⟨before, after, h.2⟩

/-- Every occurrence of `old` replaced by `new`, from left to right.  The
    counter passes over the characters of an occurrence already replaced. -/
def replaceFrom (old new : List Char) : Nat → List Char → List Char
  | _, [] => []
  | skip + 1, _ :: s => replaceFrom old new skip s
  | 0, c :: s =>
    if old.isPrefixOf (c :: s) then new ++ replaceFrom old new (old.length - 1) s
    else c :: replaceFrom old new 0 s

/-- Every occurrence of the non-empty text `old` replaced by `new`. -/
def replaceAll (old new s : List Char) : List Char := replaceFrom old new 0 s

/-- What stands between the first `{` and the last `}` of a line, if the
    brace opens before it closes. -/
def betweenBraces? (line : List Char) : Option (List Char) :=
  match line.dropWhile (· != '{') with
  | [] => none
  | _ :: rest =>
    match rest.reverse.dropWhile (· != '}') with
    | [] => none
    | _ :: inner => some inner.reverse

/-- The text of several pieces with a separator between two neighbours. -/
def joinWith (sep : String) (pieces : List String) : String := String.intercalate sep pieces

end InfraEvidence.Text
