/-
  InfraEvidence — characters that lower case leaves alone.

  The digits and the signs `.`, `/` and `:` beside them have no case, and no
  letter of any script becomes one of them.

  * `isCaseless`: these characters;
  * `mem_lowerAt_iff`: the lower case of a character has one of them only if it
    is the character itself;
  * `contains_lower`: so a text of such characters occurs in the lower case of
    a text exactly if it occurs in the text.
-/
import InfraEvidence.Text.Lowercase
import InfraEvidence.Text.Search

namespace InfraEvidence.Text

/-- A digit, or one of the signs `.`, `/` and `:`. -/
def isCaseless (c : Char) : Bool := 0x2E ≤ c.toNat && c.toNat ≤ 0x3A

theorem isCaseless_iff {c : Char} : isCaseless c = true ↔ 0x2E ≤ c.toNat ∧ c.toNat ≤ 0x3A := by
  simp [isCaseless]

/-! ## One character -/

theorem ofNat_ne_of_isCaseless {c : Char} (hc : isCaseless c = true) {n : Nat} (hn : 0x3A < n) :
    Char.ofNat n ≠ c := by
  obtain ⟨hlow, hhigh⟩ := isCaseless_iff.1 hc
  rintro rfl
  by_cases hv : n.isValidChar
  · have hcode : (Char.ofNat n).toNat = n := by
      rw [Char.ofNat, dif_pos hv]
      rfl
    omega
  · -- a number that is no character stands for the character of number zero
    have hcode : (Char.ofNat n).toNat = 0 := by simp [Char.ofNat, hv]
    omega

theorem target_of_mem_lowerRuns {r : LowerRun} (h : r ∈ lowerRuns) : 0x3A < r.target := by
  have hall : lowerRuns.all (fun r => decide (0x3A < r.target)) = true := by decide
  exact of_decide_eq_true (List.all_eq_true.1 hall r h)

theorem tableLower_ne {c d : Char} (hc : isCaseless c = true) (hd : d ≠ c) : tableLower d ≠ c := by
  unfold tableLower
  split
  · next r hr =>
    have htarget := target_of_mem_lowerRuns (List.mem_of_find?_eq_some hr)
    split
    · exact ofNat_ne_of_isCaseless hc (by omega)
    · exact hd
  · exact hd

theorem toLower_eq_iff {c d : Char} (hc : isCaseless c = true) : d.toLower = c ↔ d = c := by
  obtain ⟨hlow, hhigh⟩ := isCaseless_iff.1 hc
  have hcode : ∀ e : Char, e.val.toNat = e.toNat := fun _ => rfl
  unfold Char.toLower
  split
  · next h =>
    -- a capital letter becomes a small one, and neither has a caseless number
    obtain ⟨h1, h2⟩ := h
    rw [ge_iff_le, UInt32.le_iff_toNat_le] at h1
    rw [UInt32.le_iff_toNat_le] at h2
    have h1 : 65 ≤ d.toNat := h1
    have h2 : d.toNat ≤ 90 := h2
    constructor
    · rintro rfl
      change (d.val + 32).toNat ≤ _ at hhigh
      rw [UInt32.toNat_add, hcode] at hhigh
      have : (32 : UInt32).toNat = 32 := rfl
      omega
    · rintro rfl
      omega
  · exact Iff.rfl

/-- The lower case of a character that stands between `before` and `after`. -/
def lowerAt (before : List Char) (c : Char) (after : List Char) : List Char :=
  if c.toNat = 0x3A3 then [Char.ofNat (if isFinalSigma before after then 0x3C2 else 0x3C3)]
  else lowerChar c

theorem lowerAfter_cons (before : List Char) (c : Char) (s : List Char) :
    lowerAfter before (c :: s) = lowerAt before c s ++ lowerAfter (c :: before) s := rfl

/-- **No other character becomes a caseless one.** -/
theorem mem_lowerAt_iff {c : Char} (hc : isCaseless c = true) (before : List Char) (d : Char)
    (after : List Char) : c ∈ lowerAt before d after ↔ d = c := by
  obtain ⟨hlow, hhigh⟩ := isCaseless_iff.1 hc
  unfold lowerAt lowerChar
  split
  · next hd =>
    have hne : d ≠ c := by rintro rfl; omega
    have hsigma := ofNat_ne_of_isCaseless hc
      (show 0x3A < if isFinalSigma before after then 0x3C2 else 0x3C3 by split <;> omega)
    exact iff_of_false (fun h => hsigma (List.mem_singleton.1 h).symm) hne
  · split
    · rw [List.mem_singleton, eq_comm, toLower_eq_iff hc]
    · next hd =>
      have hne : d ≠ c := by rintro rfl; omega
      split
      · have hi : c ≠ 'i' := by rintro rfl; exact absurd hc (by decide)
        have hdot := ofNat_ne_of_isCaseless hc (show 0x3A < 0x307 by omega)
        refine iff_of_false (fun h => ?_) hne
        rcases List.mem_cons.1 h with h | h
        · exact hi h
        · exact hdot (List.mem_singleton.1 h).symm
      · exact iff_of_false (fun h => tableLower_ne hc hne (List.mem_singleton.1 h).symm) hne

theorem lowerAt_caseless {c : Char} (hc : isCaseless c = true) (before after : List Char) :
    lowerAt before c after = [c] := by
  obtain ⟨hlow, hhigh⟩ := isCaseless_iff.1 hc
  rw [lowerAt, if_neg (by omega), lowerChar, if_pos (by omega), (toLower_eq_iff hc).2 rfl]

theorem lowerAt_ne_nil (before : List Char) (c : Char) (after : List Char) :
    lowerAt before c after ≠ [] := by
  unfold lowerAt lowerChar
  split
  · exact List.cons_ne_nil _ _
  · split
    · exact List.cons_ne_nil _ _
    · split <;> exact List.cons_ne_nil _ _

/-! ## Texts -/

theorem lower_ne_nil {s : List Char} (h : s ≠ []) : lower s ≠ [] := by
  obtain ⟨c, s, rfl⟩ := List.exists_cons_of_ne_nil h
  rw [lower, lowerAfter_cons]
  exact List.append_ne_nil_of_left_ne_nil (lowerAt_ne_nil _ _ _) _

/-- ASCII characters are lowered one by one, whatever follows them. -/
theorem lowerAfter_append_ascii (before : List Char) {s : List Char}
    (h : ∀ c ∈ s, c.toNat < 0x80) (t : List Char) :
    lowerAfter before (s ++ t) = asciiLower s ++ lowerAfter (s.reverse ++ before) t := by
  induction s generalizing before with
  | nil => rfl
  | cons c s ih =>
    obtain ⟨hc, hs⟩ := List.forall_mem_cons.1 h
    have hlower : lowerAt before c (s ++ t) = [c.toLower] := by
      rw [lowerAt, if_neg (by omega), lowerChar, if_pos hc]
    rw [List.cons_append, lowerAfter_cons, hlower, ih (c :: before) hs, List.reverse_cons,
      List.append_assoc]
    rfl

theorem isPrefixOf_lowerAfter {part : List Char} (h : ∀ c ∈ part, isCaseless c = true)
    (before s : List Char) : part.isPrefixOf (lowerAfter before s) = part.isPrefixOf s := by
  induction part generalizing before s with
  | nil => rfl
  | cons p part ih =>
    obtain ⟨hp, hpart⟩ := List.forall_mem_cons.1 h
    cases s with
    | nil => rfl
    | cons d s =>
      rw [lowerAfter_cons]
      by_cases hd : d = p
      · rw [hd, lowerAt_caseless hp, List.singleton_append, List.isPrefixOf, List.isPrefixOf,
          ih hpart]
      · obtain ⟨x, xs, hx⟩ := List.exists_cons_of_ne_nil (lowerAt_ne_nil before d s)
        have hpx : p ≠ x := by
          rintro rfl
          exact hd ((mem_lowerAt_iff hp before d s).1 (hx ▸ List.mem_cons_self))
        rw [hx, List.cons_append, List.isPrefixOf, List.isPrefixOf, beq_false_of_ne hpx,
          beq_false_of_ne (Ne.symm hd), Bool.false_and, Bool.false_and]

theorem contains_append_of_head {p : Char} {part xs : List Char} (h : p ∉ xs) (s : List Char) :
    contains (p :: part) (xs ++ s) = contains (p :: part) s := by
  induction xs with
  | nil => rfl
  | cons x xs ih =>
    obtain ⟨hx, hxs⟩ := List.ne_and_not_mem_of_not_mem_cons h
    rw [List.cons_append, contains, List.isPrefixOf, beq_false_of_ne hx, Bool.false_and,
      Bool.false_or, ih hxs]

theorem contains_lowerAfter {part : List Char} (h : ∀ c ∈ part, isCaseless c = true)
    (before s : List Char) : contains part (lowerAfter before s) = contains part s := by
  induction s generalizing before with
  | nil => rfl
  | cons d s ih =>
    cases part with
    | nil =>
      obtain ⟨x, xs, hx⟩ := List.exists_cons_of_ne_nil (lowerAt_ne_nil before d s)
      rw [lowerAfter_cons, hx]
      rfl
    | cons p part =>
      have hp := (List.forall_mem_cons.1 h).1
      by_cases hd : d = p
      · have hstart := isPrefixOf_lowerAfter h before (d :: s)
        rw [lowerAfter_cons, hd, lowerAt_caseless hp, List.singleton_append] at hstart ⊢
        rw [contains, contains, hstart, ih]
      · have hnot : p ∉ lowerAt before d s := fun hmem => hd ((mem_lowerAt_iff hp _ _ _).1 hmem)
        have hother : p ∉ [d] := fun hmem => hd (List.mem_singleton.1 hmem).symm
        have hkeep : contains (p :: part) ([d] ++ s) = contains (p :: part) s :=
          contains_append_of_head hother s
        rw [lowerAfter_cons, contains_append_of_head hnot, ih, ← hkeep, List.singleton_append]

/-- **Lower case hides no caseless text and makes none up.** -/
theorem contains_lower {part : List Char} (h : ∀ c ∈ part, isCaseless c = true) (s : List Char) :
    contains part (lower s) = contains part s :=
  contains_lowerAfter h [] s

end InfraEvidence.Text
