/-
  InfraEvidence — the identifier that a text begins with.

  * `identifier?_eq_some_iff`: it is the longest one, and what follows it cannot
    be part of it;
  * `identifier?_eq_none_iff`: a text begins with none if its first character
    begins none.
-/
import Mathlib.Data.List.TakeWhile
import InfraEvidence.Proofs.Block.Quoted

namespace InfraEvidence

open Text

theorem Text.head?_dropWhile (p : Char → Bool) (s : List Char) :
    ∀ c ∈ (s.dropWhile p).head?, p c = false := by
  intro c hc
  have := List.head?_dropWhile_not p s
  rw [hc] at this
  exact this

theorem IsIdentifier.ne_nil {s : List Char} (h : IsIdentifier s) : s ≠ [] := by
  obtain ⟨c, rest, rfl, -, -⟩ := h
  exact List.cons_ne_nil _ _

theorem IsIdentifier.forall_isIdentRest {s : List Char} (h : IsIdentifier s) :
    ∀ c ∈ s, isIdentRest c = true := by
  obtain ⟨c, rest, rfl, hc, hrest⟩ := h
  exact List.forall_mem_cons.2 ⟨isIdentRest_of_isIdentStart hc, hrest⟩

theorem IsIdentifier.append {s t : List Char} (hs : IsIdentifier s)
    (ht : ∀ c ∈ t, isIdentRest c = true) : IsIdentifier (s ++ t) := by
  obtain ⟨c, rest, rfl, hc, hrest⟩ := hs
  exact ⟨c, rest ++ t, rfl, hc, List.forall_mem_append.2 ⟨hrest, ht⟩⟩

theorem identifier?_eq_some_iff {s name rest : List Char} :
    identifier? s = some (name, rest) ↔
      s = name ++ rest ∧ IsIdentifier name ∧ ∀ c ∈ rest.head?, isIdentRest c = false := by
  constructor
  · intro h
    refine ⟨(identifier?_append h).symm, ?_⟩
    cases s with
    | nil => simp [identifier?] at h
    | cons c s =>
      rw [identifier?] at h
      split at h
      · next hc =>
        simp only [Option.some.injEq, Prod.mk.injEq] at h
        obtain ⟨rfl, rfl⟩ := h
        exact ⟨⟨c, _, rfl, hc, fun d hd => List.mem_takeWhile_imp hd⟩, head?_dropWhile _ s⟩
      · contradiction
  · rintro ⟨rfl, hname, hrest⟩
    cases rest with
    | nil =>
      obtain ⟨c, rest, rfl, hc, hrest⟩ := hname
      rw [List.append_nil, identifier?, if_pos hc, List.takeWhile_eq_self_iff.2 hrest,
        List.dropWhile_eq_nil_iff.2 hrest]
    | cons d rest => exact identifier?_of_isIdentifier hname (hrest d rfl) rest

theorem identifier?_eq_none_iff {s : List Char} :
    identifier? s = none ↔ ∀ c ∈ s.head?, isIdentStart c = false := by
  cases s with
  | nil => simp [identifier?]
  | cons c s => simp [identifier?]

end InfraEvidence
