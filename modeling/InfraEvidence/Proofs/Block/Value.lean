/-
  InfraEvidence — the values of assignments.

  * `quoteAfter`, `openQuote`: the quote that is open after a text, of which a
    quote character opens one and only the same character closes it;
  * `cutComment_cons`: how cutting off a comment goes on by one character;
  * `prefix_cutComment`: what is left stands at the beginning of the text;
  * `cutComment_comment`: where no quote is open, a comment is cut off;
  * `unquote?_eq_some_iff`: one layer of quotes is taken off a text that has them
    at both ends;
  * `cleanValue_between`: a value in quotes is what stands between them, whatever
    that is, also with a comment behind.
-/
import InfraEvidence.Block.Setting
import InfraEvidence.Proofs.Text.Trim

namespace InfraEvidence

open Text

/-! ## Open quotes -/

/-- The quote that is open after one more character. -/
def quoteAfter : Option Char → Char → Option Char
  | none, c => if c = '"' ∨ c = '\x27' then some c else none
  | some q, c => if c = q then none else some q

/-- The quote that is open at the end of a text. -/
def openQuote (s : List Char) : Option Char := s.foldl quoteAfter none

/-! ## Comments -/

/-- **A comment begins at a `#` where no quote is open.**  Any other character
    stays, and may open or close a quote. -/
theorem cutComment_cons (quote : Option Char) (c : Char) (s : List Char) :
    cutComment quote (c :: s) =
      if quote = none ∧ c = '#' then [] else c :: cutComment (quoteAfter quote c) s := by
  cases quote with
  | none =>
    by_cases hsharp : c = '#'
    · rw [if_pos ⟨rfl, hsharp⟩, cutComment, if_pos hsharp]
    · have hstays : ¬ ((none : Option Char) = none ∧ c = '#') := fun h => hsharp h.2
      rw [if_neg hstays, cutComment, if_neg hsharp, quoteAfter]
      split <;> rfl
  | some q =>
    have hstays : ¬ (some q = none ∧ c = '#') := fun h => nomatch h.1
    rw [if_neg hstays, cutComment, quoteAfter]

theorem prefix_cutComment (quote : Option Char) (s : List Char) : cutComment quote s <+: s := by
  induction s generalizing quote with
  | nil => cases quote <;> exact List.nil_prefix
  | cons c s ih =>
    rw [cutComment_cons]
    split
    · exact List.nil_prefix
    · exact (List.prefix_cons_inj c).2 (ih _)

/-- **A comment is cut off** where the quotes before it are closed. -/
theorem cutComment_comment {quote : Option Char} {s : List Char}
    (h : s.foldl quoteAfter quote = none) (comment : List Char) :
    cutComment quote (s ++ '#' :: comment) = cutComment quote s := by
  induction s generalizing quote with
  | nil =>
    obtain rfl : quote = none := h
    rfl
  | cons c s ih => rw [List.cons_append, cutComment_cons, cutComment_cons, ih h]

/-- Between quotes nothing begins a comment and no other quote counts. -/
theorem cutComment_quoted {q : Char} {s : List Char} (h : q ∉ s) (t : List Char) :
    cutComment (some q) (s ++ q :: t) = s ++ q :: cutComment none t := by
  induction s with
  | nil => simp [cutComment]
  | cons c s ih =>
    obtain ⟨hc, hs⟩ := List.ne_and_not_mem_of_not_mem_cons h
    rw [List.cons_append, cutComment, if_neg (Ne.symm hc), ih hs, List.cons_append]

theorem cutComment_blanks {s : List Char} (h : allBlank s = true) (t : List Char) :
    cutComment none (s ++ t) = s ++ cutComment none t := by
  induction s with
  | nil => rfl
  | cons c s ih =>
    obtain ⟨hc, hs⟩ := List.forall_mem_cons.1 (List.all_eq_true.1 h)
    have hne : ∀ d, isBlank d = false → c ≠ d := by
      rintro d hd rfl
      exact absurd hc (by simp [hd])
    have hquote : ¬ (c = '"' ∨ c = '\x27') :=
      not_or.2 ⟨hne '"' (by decide), hne '\x27' (by decide)⟩
    rw [List.cons_append, cutComment, if_neg (hne '#' (by decide)), if_neg hquote,
      ih (List.all_eq_true.2 hs), List.cons_append]

/-! ## Quotes around a text -/

theorem unquote?_eq_some_iff {q : Char} {s inner : List Char} :
    unquote? q s = some inner ↔ s = q :: (inner ++ [q]) := by
  unfold unquote?
  cases s with
  | nil => exact ⟨nofun, nofun⟩
  | cons c rest =>
    simp only [Option.ite_none_right_eq_some, Option.some.injEq, List.cons.injEq,
      List.getLast?_eq_some_iff]
    constructor
    · rintro ⟨⟨rfl, body, rfl⟩, rfl⟩
      rw [List.dropLast_concat]
      exact ⟨rfl, rfl⟩
    · rintro ⟨rfl, rfl⟩
      exact ⟨⟨rfl, inner, rfl⟩, List.dropLast_concat⟩

/-- A text between quotes of either kind loses them and nothing else. -/
theorem stripQuotes_between {q : Char} (hq : q = '"' ∨ q = '\x27') (s : List Char) :
    stripQuotes (q :: (s ++ [q])) = s := by
  have hstrip : unquote? q (q :: (s ++ [q])) = some s := unquote?_eq_some_iff.2 rfl
  rcases hq with rfl | rfl
  · rw [stripQuotes, hstrip, Option.some_or, Option.getD_some]
  · rw [stripQuotes, hstrip, unquote?, if_neg fun h => absurd h.1 (by decide), Option.none_or,
      Option.getD_some]

/-- **A value in quotes is what stands between them**, if only blanks come before
    and only blanks and a comment behind. -/
theorem cleanValue_between {q : Char} (hq : q = '"' ∨ q = '\x27') {before s after : List Char}
    (hbefore : allBlank before = true) (hs : q ∉ s)
    (hafter : trimEnd (cutComment none after) = []) :
    cleanValue (before ++ q :: (s ++ q :: after)) = s := by
  have hblank : isBlank q = false := by rcases hq with rfl | rfl <;> decide
  have hopen : ∀ t, cutComment none (q :: t) = q :: cutComment (some q) t := by
    intro t
    rcases hq with rfl | rfl <;> rfl
  have hcut : cutComment none (before ++ q :: (s ++ q :: after)) =
      before ++ q :: (s ++ q :: cutComment none after) := by
    rw [cutComment_blanks hbefore, hopen, cutComment_quoted hs]
  have htrim : trim (before ++ q :: (s ++ q :: cutComment none after)) = q :: (s ++ [q]) := by
    rw [trim, trimStart_append_blanks hbefore, ← trim, trim_between hblank hblank, hafter]
  rw [cleanValue, hcut, htrim, stripQuotes_between hq]

end InfraEvidence
