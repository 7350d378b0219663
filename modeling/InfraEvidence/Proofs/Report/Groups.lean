/-
  InfraEvidence — the blocks of a report by their types.

  * `Report.get?_byType`: the group of a type has the blocks of that type, in
    the order given;
  * `Report.flatten_byType`: all groups in order are the blocks sorted by type,
    ties in the order given;
  * `Report.size_byType`, `NameSet.size_ofList`: how many types or names there
    are.
-/
import InfraEvidence.Proofs.Order.Stable
import InfraEvidence.Report.Order
import Mathlib.Data.List.Dedup
import Mathlib.Data.List.Induction

namespace InfraEvidence

/-- Names in order are as many as the different ones of a list with the same names. -/
theorem length_eq_dedup {ns xs : List String} (h : ns.Pairwise (· < ·))
    (hmem : ∀ n, n ∈ ns ↔ n ∈ xs) : ns.length = xs.dedup.length := by
  have hnodup : ns.Nodup := by
    refine h.imp ?_
    rintro a _ hlt rfl
    exact String.lt_irrefl a hlt
  refine ((List.perm_ext_iff_of_nodup hnodup xs.nodup_dedup).2 fun n => ?_).length_eq
  rw [hmem, List.mem_dedup]

theorem NameSet.size_ofList (ns : List String) : (ofList ns).size = ns.dedup.length :=
  length_eq_dedup (ofList ns).increasing fun _ => mem_ofList

namespace Dict

variable {α : Type}

/-- Where each group has one key, the members with a key are the group of that key. -/
theorem filter_flatten {key : α → String} {es : List (String × List α)}
    (h : es.Pairwise fun a b => a.1 < b.1) (hkey : ∀ e ∈ es, ∀ b ∈ e.2, key b = e.1) (t : String) :
    (es.map (·.2)).flatten.filter (key · = t) = (es.lookup t).getD [] := by
  induction es with
  | nil => rfl
  | cons e es ih =>
    obtain ⟨he, hes⟩ := List.pairwise_cons.1 h
    have hhead : ∀ b ∈ e.2, key b = e.1 := hkey e List.mem_cons_self
    have ih := ih hes fun f hf => hkey f (List.mem_cons_of_mem _ hf)
    rw [List.map_cons, List.flatten_cons, List.filter_append, ih, List.lookup_cons]
    by_cases ht : t = e.1
    · subst ht
      have hrest : es.lookup e.1 = none := by
        refine List.lookup_eq_none_iff.2 fun f hf => ?_
        have hne : e.1 ≠ f.1 := fun heq => String.lt_irrefl _ (heq ▸ he f hf)
        simpa using hne
      rw [hrest, beq_self_eq_true, List.filter_eq_self.2 fun b hb => by simpa using hhead b hb]
      simp
    · have hne : (t == e.1) = false := by simpa using ht
      have hnone : e.2.filter (key · = t) = [] := by
        refine List.filter_eq_nil_iff.2 fun b hb hkey => ht ?_
        rw [← hhead b hb]
        exact (of_decide_eq_true hkey).symm
      rw [hnone, hne, List.nil_append]

end Dict

namespace Report

theorem byType_append (bs : List Block) (b : Block) :
    byType (bs ++ [b]) = (byType bs).addTo b.type (· ++ [b]) [b] := by
  rw [byType, byType, List.foldl_append, List.foldl_cons, List.foldl_nil]

/-- **The group of a type** has the blocks of that type, in the order given. -/
theorem get?_byType (bs : List Block) (t : String) :
    (byType bs).get? t =
      if bs.filter (·.type = t) = [] then none else some (bs.filter (·.type = t)) := by
  induction bs using List.reverseRecOn with
  | nil => rfl
  | append_singleton bs b ih =>
    rw [byType_append, Dict.addTo, Dict.get?_insert, List.filter_append]
    by_cases ht : t = b.type
    · subst ht
      rw [if_pos rfl, ih]
      split <;> simp_all
    · have hnone : [b].filter (·.type = t) = [] := by simpa using Ne.symm ht
      rw [if_neg ht, ih, hnone, List.append_nil]

theorem type_of_mem_byType {bs : List Block} {e : String × List Block}
    (he : e ∈ (byType bs).entries) : e.2 = bs.filter (·.type = e.1) := by
  have hget := Dict.get?_of_mem he
  rw [get?_byType] at hget
  split at hget
  · exact absurd hget nofun
  · exact (Option.some.inj hget).symm

theorem size_byType (bs : List Block) : (byType bs).size = (bs.map (·.type)).dedup.length := by
  have hlength : (byType bs).size = (byType bs).keys.length := by simp [Dict.size, Dict.keys]
  rw [hlength]
  refine length_eq_dedup (List.pairwise_map.2 (byType bs).increasing) fun t => ?_
  rw [Dict.mem_keys_iff, get?_byType]
  simp

/-- Two blocks are tied in the order of types if they have the same type. -/
theorem tied_type (a b : Block) :
    tied (fun a b : Block => a.type ≤ b.type) a b = decide (b.type = a.type) := by
  rw [Bool.eq_iff_iff, tied_iff, decide_eq_true_iff, decide_eq_true_iff, decide_eq_true_iff]
  constructor
  · rintro ⟨hab, hba⟩
    exact String.le_antisymm hba hab
  · intro heq
    rw [heq]
    exact ⟨String.le_refl _, String.le_refl _⟩

/-- **All groups in order** are the blocks sorted by type, ties in the order given. -/
theorem flatten_byType (bs : List Block) :
    (byType bs).values.flatten = bs.mergeSort (fun a b => a.type ≤ b.type) := by
  have htype : ∀ e ∈ (byType bs).entries, ∀ b ∈ e.2, b.type = e.1 := by
    intro e he b hb
    rw [type_of_mem_byType he] at hb
    exact of_decide_eq_true (List.mem_filter.1 hb).2
  refine (mergeSort_eq_of_ties (fun a b c hab hbc => ?_) (fun a b => ?_) ?_ fun a => ?_).symm
  · rw [decide_eq_true_iff] at *
    exact String.le_trans hab hbc
  · simpa using String.le_total a.type b.type
  · -- within a group the types are equal, and the groups have increasing types
    rw [List.pairwise_flatten]
    constructor
    · intro group hgroup
      obtain ⟨e, he, rfl⟩ := List.mem_map.1 hgroup
      refine List.pairwise_of_forall_mem_list fun a ha b hb => ?_
      have heq : a.type = b.type := (htype e he a ha).trans (htype e he b hb).symm
      exact decide_eq_true (heq ▸ String.le_refl _)
    · refine List.pairwise_map.2 ((byType bs).increasing.imp_of_mem ?_)
      intro e f he hf hlt a ha b hb
      rw [decide_eq_true_iff, htype e he a ha, htype f hf b hb]
      exact String.not_lt.1 (String.lt_asymm hlt)
  · have hties : tied (fun a b : Block => a.type ≤ b.type) a = fun b => decide (b.type = a.type) :=
      funext (tied_type a)
    have hgroup := Dict.filter_flatten (byType bs).increasing htype a.type
    rw [hties, Dict.values, hgroup]
    have hget := get?_byType bs a.type
    rw [Dict.get?] at hget
    rw [hget]
    split
    · next hnone => rw [hnone]; rfl
    · rfl

end Report

end InfraEvidence
