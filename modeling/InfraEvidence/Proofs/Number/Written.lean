/-
  InfraEvidence — the characters of written numbers.

  * `Number.isDigit_of_mem_toString`: a natural number is written with digits;
  * `Fixed.IsWritten`: the characters of numbers with fixed places: digits, the
    point, the minus sign, and the letters of the words for infinity and for no
    number;
  * `Fixed.isWritten_of_mem_render`: no number is written with any other.
-/
import InfraEvidence.Number.Fixed

namespace InfraEvidence

theorem Text.toList_pushn (s : String) (c : Char) (n : Nat) :
    (s.pushn c n).toList = s.toList ++ List.replicate n c := by
  induction n with
  | zero => exact (List.append_nil _).symm
  | succ n ih =>
    have hpush : s.pushn c (n + 1) = (s.pushn c n).push c := rfl
    rw [hpush, String.toList_push, ih, List.append_assoc, List.replicate_succ']

theorem Number.isDigit_of_mem_toString {n : Nat} {c : Char} (h : c ∈ (toString n).toList) :
    c.isDigit = true := by
  rw [Nat.toString_eq_ofList_toDigits, String.toList_ofList] at h
  exact Nat.isDigit_of_mem_toDigits (by decide) (by decide) h

namespace Fixed

open Number

/-- The characters of numbers with fixed places that are no digits. -/
def marks : List Char := ".-infNa".toList

/-- A character of a number with fixed places. -/
def IsWritten (c : Char) : Prop := c.isDigit = true ∨ c ∈ marks

instance : DecidablePred IsWritten := fun _ => inferInstanceAs (Decidable (_ ∨ _))

theorem isWritten_of_mem_places {p n : Nat} {c : Char} (h : c ∈ (places p n).toList) :
    IsWritten c := by
  simp only [places, String.toList_append, List.mem_append, Text.toList_pushn,
    List.mem_replicate] at h
  rcases h with ((h | h) | (h | ⟨-, rfl⟩)) | h
  · exact Or.inl (isDigit_of_mem_toString h)
  · obtain rfl : c = '.' := by simpa using h
    exact Or.inr (by decide)
  · exact absurd h List.not_mem_nil
  · exact Or.inl rfl
  · exact Or.inl (isDigit_of_mem_toString h)

theorem isWritten_of_mem_sign {negative : Prop} [Decidable negative] {c : Char}
    (h : c ∈ (if negative then "-" else "").toList) : IsWritten c := by
  split at h
  · obtain rfl : c = '-' := by simpa using h
    exact Or.inr (by decide)
  · exact absurd h List.not_mem_nil

/-- **No other character is written.** -/
theorem isWritten_of_mem_render {p : Nat} {x : Float} {c : Char}
    (h : c ∈ (render p x).toList) : IsWritten c := by
  have hletters : "inf".toList ++ "NaN".toList ⊆ marks := by decide
  have hword : ∀ c ∈ "inf".toList ++ "NaN".toList, IsWritten c := fun c hc => Or.inr (hletters hc)
  simp only [render] at h
  split at h
  · split at h
    · rw [String.toList_append, List.mem_append] at h
      exact h.elim isWritten_of_mem_sign fun h => hword c (List.mem_append_left _ h)
    · exact hword c (List.mem_append_right _ h)
  · split at h <;>
    · rw [String.toList_append, List.mem_append] at h
      exact h.elim isWritten_of_mem_sign isWritten_of_mem_places

end Fixed

end InfraEvidence
