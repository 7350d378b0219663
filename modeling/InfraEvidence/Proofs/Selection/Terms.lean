/-
  InfraEvidence — the terms that a list of texts asks for.

  Only the set of its terms counts for a selection, and a term is what a text
  says apart from the blanks around it and from letter case.

  * `Selection.mem_terms_iff`: the terms come from the texts that are not blank,
    one from each of them;
  * `Selection.admits_iff`: a block is kept if one of these texts asks for it, or
    if there is none;
  * `Selection.Rewording`: one change to a list that keeps what it asks for;
  * `Selection.mem_terms_reworded`: after any number of them the terms are the
    same.
-/
import InfraEvidence.Proofs.Selection.Keep
import InfraEvidence.Proofs.Text.Respelled
import Mathlib.Data.List.Forall2
import Mathlib.Logic.Relation

namespace InfraEvidence.Selection

open Text

/-- One of the texts is not blank. -/
def Speaks (texts : List String) : Prop := ∃ t ∈ texts, allBlank t.toList = false

instance (texts : List String) : Decidable (Speaks texts) :=
  inferInstanceAs (Decidable (∃ t ∈ texts, _))

variable {test : Block → List Char → Bool} {texts later : List String} {b : Block}

/-! ## From texts to terms -/

theorem lower_trim_eq_nil_iff {s : List Char} : lower (trim s) = [] ↔ allBlank s = true := by
  rw [← trim_eq_nil_iff]
  refine ⟨fun h => ?_, fun h => by rw [h]; rfl⟩
  by_contra hne
  exact lower_ne_nil hne h

theorem mem_terms_iff {term : List Char} :
    term ∈ terms texts ↔ ∃ t ∈ texts, allBlank t.toList = false ∧ lower (trim t.toList) = term := by
  have hkeep : ∀ t : String,
      (!(lower (trim t.toList)).isEmpty) = true ↔ allBlank t.toList = false := by
    intro t
    rw [Bool.not_eq_true', ← Bool.not_eq_true, List.isEmpty_iff, lower_trim_eq_nil_iff,
      Bool.not_eq_true]
  simp only [terms, List.mem_filter, List.mem_map]
  constructor
  · rintro ⟨⟨t, ht, rfl⟩, hterm⟩
    exact ⟨t, ht, (hkeep t).1 hterm, rfl⟩
  · rintro ⟨t, ht, hblank, rfl⟩
    exact ⟨⟨t, ht, rfl⟩, (hkeep t).2 hblank⟩

/-- **There are terms** if one of the texts is not blank, and only then. -/
theorem terms_ne_nil_iff : terms texts ≠ [] ↔ Speaks texts := by
  constructor
  · intro h
    obtain ⟨term, hterm⟩ := List.exists_mem_of_ne_nil _ h
    obtain ⟨t, ht, hblank, -⟩ := mem_terms_iff.1 hterm
    exact ⟨t, ht, hblank⟩
  · rintro ⟨t, ht, hblank⟩
    exact List.ne_nil_of_mem (mem_terms_iff.2 ⟨t, ht, hblank, rfl⟩)

/-- One of the texts that are not blank asks for the block. -/
def Asks (test : Block → List Char → Bool) (texts : List String) (b : Block) : Prop :=
  ∃ t ∈ texts, allBlank t.toList = false ∧ test b (lower (trim t.toList)) = true

instance (test : Block → List Char → Bool) (texts : List String) : DecidablePred (Asks test texts) :=
  fun b => inferInstanceAs (Decidable (∃ t ∈ texts, _ ∧ test b _ = true))

theorem any_terms_iff : (terms texts).any (test b) = true ↔ Asks test texts b := by
  rw [List.any_eq_true]
  constructor
  · rintro ⟨term, hterm, h⟩
    obtain ⟨t, ht, hblank, rfl⟩ := mem_terms_iff.1 hterm
    exact ⟨t, ht, hblank, h⟩
  · rintro ⟨t, ht, hblank, h⟩
    exact ⟨_, mem_terms_iff.2 ⟨t, ht, hblank, rfl⟩, h⟩

/-- **A block is kept** if one of the texts asks for it, or if none of them is
    more than blank. -/
theorem admits_iff : admits test texts b = true ↔ (Speaks texts → Asks test texts b) := by
  rw [admits, Bool.or_eq_true, List.isEmpty_iff, any_terms_iff, ← terms_ne_nil_iff, Ne,
    not_imp_comm, or_iff_not_imp_right]

theorem admits_of_speaks (h : Speaks texts) : admits test texts b = true ↔ Asks test texts b :=
  admits_iff.trans (imp_iff_right h)

theorem asks_append : Asks test (texts ++ later) b ↔ Asks test texts b ∨ Asks test later b := by
  simp only [Asks, List.mem_append, or_and_right, exists_or]

theorem speaks_append_left (h : Speaks texts) (later : List String) : Speaks (texts ++ later) := by
  obtain ⟨t, ht, hblank⟩ := h
  exact ⟨t, List.mem_append_left later ht, hblank⟩

/-! ## Other words for the same -/

/-- One change to a list of texts that keeps what it asks for. -/
inductive Rewording : List String → List String → Prop
  /-- A blank text comes before the others -/
  | blank {t : String} (texts : List String) : allBlank t.toList = true →
      Rewording texts (t :: texts)
  /-- One of the texts is said once more -/
  | repeated {t : String} {texts : List String} : t ∈ texts → Rewording texts (t :: texts)
  /-- The texts come in another order -/
  | reordered {texts texts' : List String} : texts.Perm texts' → Rewording texts texts'
  /-- Blanks around some of the texts, and letters of theirs in another case -/
  | respelled {texts texts' : List String} : List.Forall₂ Respells texts texts' →
      Rewording texts texts'

theorem terms_blank {t : String} (h : allBlank t.toList = true) (texts : List String) :
    terms (t :: texts) = terms texts := by
  have hnil : lower (trim t.toList) = [] := lower_trim_eq_nil_iff.2 h
  rw [terms, List.map_cons, hnil, List.filter_cons_of_neg (by simp), ← terms]

theorem terms_respelled {texts texts' : List String} (h : List.Forall₂ Respells texts texts') :
    terms texts' = terms texts := by
  have hlower : (texts'.map fun t => lower (trim t.toList)) =
      texts.map fun t => lower (trim t.toList) := by
    induction h with
    | nil => rfl
    | cons hword _ ih => rw [List.map_cons, List.map_cons, hword.lower_trim, ih]
  rw [terms, hlower, ← terms]

theorem mem_terms_rewording {texts texts' : List String} (h : Rewording texts texts')
    (term : List Char) : term ∈ terms texts' ↔ term ∈ terms texts := by
  cases h with
  | blank _ hblank => rw [terms_blank hblank]
  | repeated ht =>
    -- the text that is said once more gives no other term than before
    rw [mem_terms_iff, mem_terms_iff, List.exists_mem_cons_iff, or_iff_right_of_imp]
    exact fun hterm => ⟨_, ht, hterm⟩
  | reordered hperm => simp only [mem_terms_iff, hperm.mem_iff]
  | respelled hwords => rw [terms_respelled hwords]

/-- **Other words for the same have the same terms**, after any number of changes. -/
theorem mem_terms_reworded {texts texts' : List String}
    (h : Relation.ReflTransGen Rewording texts texts') (term : List Char) :
    term ∈ terms texts' ↔ term ∈ terms texts := by
  induction h with
  | refl => exact Iff.rfl
  | tail _ hstep ih => exact (mem_terms_rewording hstep term).trans ih

/-- The set of the terms decides which blocks are kept. -/
theorem admits_congr {texts texts' : List String}
    (h : ∀ term, term ∈ terms texts' ↔ term ∈ terms texts) (b : Block) :
    admits test texts' b = admits test texts b := by
  have hnil : terms texts' = [] ↔ terms texts = [] := by
    simp only [List.eq_nil_iff_forall_not_mem, h]
  rw [Bool.eq_iff_iff]
  simp only [admits, Bool.or_eq_true, List.isEmpty_iff, List.any_eq_true, hnil, h]

end InfraEvidence.Selection
