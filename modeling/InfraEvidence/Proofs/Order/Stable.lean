/-
  InfraEvidence — stable sorting.

  Two elements are tied if each may come before the other one (`tied`).

  * `eq_of_ties`: a list in order is determined by the order of its ties;
  * `filter_tied_mergeSort`: sorting keeps the order of ties;
  * `mergeSort_eq_of_ties`: the list in order with the ties of another one is
    the other one sorted.
-/
import Mathlib.Data.List.Basic

namespace InfraEvidence

section
variable {α : Type} {le : α → α → Bool}

/-- Each of the two may come before the other one. -/
def tied (le : α → α → Bool) (a b : α) : Bool := le a b && le b a

theorem tied_iff {a b : α} : tied le a b = true ↔ le a b = true ∧ le b a = true :=
  Bool.and_eq_true_iff

theorem le_refl_of_total (total : ∀ a b, (le a b || le b a) = true) (a : α) : le a a = true := by
  simpa using total a a

theorem mem_of_ties (total : ∀ a b, (le a b || le b a) = true) {as bs : List α} {a : α}
    (h : as.filter (tied le a) = bs.filter (tied le a)) (ha : a ∈ as) : a ∈ bs := by
  have htied : tied le a a = true :=
    tied_iff.2 ⟨le_refl_of_total total a, le_refl_of_total total a⟩
  have hmem : a ∈ as.filter (tied le a) := List.mem_filter.2 ⟨ha, htied⟩
  rw [h] at hmem
  exact (List.mem_filter.1 hmem).1

/-- **A list in order is determined by its ties.** -/
theorem eq_of_ties (total : ∀ a b, (le a b || le b a) = true) {as bs : List α}
    (has : as.Pairwise (le · · = true)) (hbs : bs.Pairwise (le · · = true))
    (h : ∀ a, as.filter (tied le a) = bs.filter (tied le a)) : as = bs := by
  induction as generalizing bs with
  | nil =>
    cases bs with
    | nil => rfl
    | cons b bs => exact absurd (mem_of_ties total (h b).symm List.mem_cons_self) List.not_mem_nil
  | cons a as ih =>
    cases bs with
    | nil => exact absurd (mem_of_ties total (h a) List.mem_cons_self) List.not_mem_nil
    | cons b bs =>
      obtain ⟨ha, hasTail⟩ := List.pairwise_cons.1 has
      obtain ⟨hb, hbsTail⟩ := List.pairwise_cons.1 hbs
      -- both lists begin with a least element
      have hba : le b a = true := by
        rcases List.mem_cons.1 (mem_of_ties total (h a) List.mem_cons_self) with heq | hmem
        · exact heq ▸ le_refl_of_total total a
        · exact hb a hmem
      have hab : le a b = true := by
        rcases List.mem_cons.1 (mem_of_ties total (h b).symm List.mem_cons_self) with heq | hmem
        · exact heq ▸ le_refl_of_total total b
        · exact ha b hmem
      have hhead := h a
      rw [List.filter_cons_of_pos (tied_iff.2 ⟨le_refl_of_total total a, le_refl_of_total total a⟩),
        List.filter_cons_of_pos (tied_iff.2 ⟨hab, hba⟩)] at hhead
      obtain ⟨rfl, -⟩ := List.cons.inj hhead
      refine congrArg (a :: ·) (ih hasTail hbsTail fun c => ?_)
      have hties := h c
      rw [List.filter_cons, List.filter_cons] at hties
      split at hties
      · exact (List.cons.inj hties).2
      · exact hties

/-- **Sorting keeps the order of ties.** -/
theorem filter_tied_mergeSort (trans : ∀ a b c, le a b = true → le b c = true → le a c = true)
    (total : ∀ a b, (le a b || le b a) = true) (bs : List α) (a : α) :
    (bs.mergeSort le).filter (tied le a) = bs.filter (tied le a) := by
  have hties : (bs.filter (tied le a)).Pairwise (le · · = true) := by
    refine List.pairwise_of_forall_mem_list fun b hb c hc => ?_
    have hba := (tied_iff.1 (List.mem_filter.1 hb).2).2
    have hac := (tied_iff.1 (List.mem_filter.1 hc).2).1
    exact trans b a c hba hac
  have hsub := (List.sublist_mergeSort trans total hties List.filter_sublist).filter (tied le a)
  rw [List.filter_filter] at hsub
  simp only [Bool.and_self] at hsub
  refine (hsub.eq_of_length ?_).symm
  exact ((List.mergeSort_perm bs le).filter _).length_eq.symm

/-- **A stable sort is unique.** -/
theorem mergeSort_eq_of_ties (trans : ∀ a b c, le a b = true → le b c = true → le a c = true)
    (total : ∀ a b, (le a b || le b a) = true) {bs cs : List α}
    (hcs : cs.Pairwise (le · · = true)) (h : ∀ a, cs.filter (tied le a) = bs.filter (tied le a)) :
    bs.mergeSort le = cs := by
  refine eq_of_ties total (List.pairwise_mergeSort trans total bs) hcs fun a => ?_
  rw [h, filter_tied_mergeSort trans total]

end

end InfraEvidence
