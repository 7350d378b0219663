/-
  InfraEvidence — replacing a text wherever it occurs.

  * `replaceAll_occurrence`: an occurrence is replaced;
  * `replaceAll_cons`: a character at which none begins is kept;
  * `replaceAll_append`: so is a text without the character that all of them
    begin with.
-/
import InfraEvidence.Text.Search

namespace InfraEvidence.Text

variable {old new : List Char}

theorem replaceFrom_eq_drop (k : Nat) (s : List Char) :
    replaceFrom old new k s = replaceAll old new (s.drop k) := by
  induction s generalizing k with
  | nil => cases k <;> rfl
  | cons c s ih =>
    cases k with
    | zero => rfl
    | succ k => exact ih k

theorem replaceAll_occurrence (hold : old ≠ []) (s : List Char) :
    replaceAll old new (old ++ s) = new ++ replaceAll old new s := by
  obtain ⟨c, t, rfl⟩ := List.exists_cons_of_ne_nil hold
  have hbegins : (c :: t).isPrefixOf (c :: (t ++ s)) = true :=
    List.isPrefixOf_iff_prefix.2 (List.prefix_append (c :: t) s)
  rw [replaceAll, List.cons_append, replaceFrom, if_pos hbegins, replaceFrom_eq_drop]
  simp

theorem replaceAll_cons {c : Char} {s : List Char} (h : ¬ old <+: c :: s) :
    replaceAll old new (c :: s) = c :: replaceAll old new s := by
  rw [replaceAll, replaceFrom, if_neg (by rwa [List.isPrefixOf_iff_prefix]), replaceAll]

/-- Nothing starts where the first character of the text to replace is missing. -/
theorem replaceAll_append {c : Char} (hold : old.head? = some c) {t : List Char} (ht : c ∉ t)
    (s : List Char) : replaceAll old new (t ++ s) = t ++ replaceAll old new s := by
  induction t with
  | nil => rfl
  | cons d t ih =>
    rw [List.mem_cons, not_or] at ht
    rw [List.cons_append, replaceAll_cons, ih ht.2, List.cons_append]
    intro hbegins
    obtain ⟨old', rfl⟩ := List.head?_eq_some_iff.1 hold
    exact ht.1 (List.cons_prefix_cons.1 hbegins).1

end InfraEvidence.Text
