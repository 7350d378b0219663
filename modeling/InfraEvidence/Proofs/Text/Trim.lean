/-
  InfraEvidence — trimmed texts.

  * `trimStart_cons`, `trimEnd_append`: trimming stops at a character that is
    not blank;
  * `trim_between`: a text that begins with such a character, and has another
    one, loses the blanks at its end only;
  * `trim_append`: a text with such characters loses nothing between them;
  * `trim_append_blanks`, `trim_eq_nil_iff`: blanks around a text are trimmed off,
    and a text of blanks is trimmed to nothing;
  * `isBlank_of_isIdentRest`: no character of an identifier is blank;
  * `count_trim`: a trimmed text has as many of any other character as before.
-/
import InfraEvidence.Text.Blank
import InfraEvidence.Text.Word
import Mathlib.Data.List.TakeWhile

namespace InfraEvidence.Text

theorem trimStart_cons {c : Char} (h : isBlank c = false) (s : List Char) :
    trimStart (c :: s) = c :: s := by
  rw [trimStart, List.dropWhile_cons_of_neg (by simp [h])]

theorem trimStart_cons_blank {c : Char} (h : isBlank c = true) (s : List Char) :
    trimStart (c :: s) = trimStart s := by
  rw [trimStart, List.dropWhile_cons_of_pos h, trimStart]

theorem trimEnd_concat_blank {c : Char} (h : isBlank c = true) (s : List Char) :
    trimEnd (s ++ [c]) = trimEnd s := by
  rw [trimEnd, List.reverse_append, List.reverse_singleton, List.singleton_append,
    List.dropWhile_cons_of_pos h, trimEnd]

theorem trimEnd_append {c : Char} (h : isBlank c = false) (s t : List Char) :
    trimEnd (s ++ c :: t) = s ++ c :: trimEnd t := by
  have hrev : (s ++ c :: t).reverse = t.reverse ++ (c :: s.reverse) := by simp
  rw [trimEnd, trimEnd, hrev, List.dropWhile_append]
  split
  · next ht =>
    rw [List.isEmpty_iff.1 ht, List.dropWhile_cons_of_neg (by simp [h])]
    simp
  · simp

theorem trim_between {c d : Char} (hc : isBlank c = false) (hd : isBlank d = false)
    (s t : List Char) : trim (c :: (s ++ d :: t)) = c :: (s ++ d :: trimEnd t) := by
  rw [trim, trimStart_cons hc, ← List.cons_append, trimEnd_append hd, List.cons_append]

theorem trimStart_append {c : Char} (hc : isBlank c = false) (s t : List Char) :
    trimStart (s ++ c :: t) = trimStart s ++ c :: t := by
  induction s with
  | nil => exact trimStart_cons hc t
  | cons d s ih =>
    by_cases hd : isBlank d = true
    · rw [List.cons_append, trimStart_cons_blank hd, trimStart_cons_blank hd, ih]
    · rw [Bool.not_eq_true] at hd
      rw [List.cons_append, trimStart_cons hd, trimStart_cons hd, List.cons_append]

theorem trim_append {c d : Char} (hc : isBlank c = false) (hd : isBlank d = false)
    (s t : List Char) : trim (s ++ c :: (t ++ [d])) = trimStart s ++ c :: (t ++ [d]) := by
  rw [trim, trimStart_append hc, ← List.cons_append, ← List.append_assoc, trimEnd_append hd]
  rfl

theorem trim_concat {c : Char} (hc : isBlank c = false) (s : List Char) :
    trim (s ++ [c]) = trimStart s ++ [c] := by
  rw [trim, trimStart_append hc, trimEnd_append hc]
  rfl

/-! ## Blanks -/

theorem trimStart_append_blanks {before : List Char} (h : allBlank before = true)
    (s : List Char) : trimStart (before ++ s) = trimStart s :=
  List.dropWhile_append_of_pos (List.all_eq_true.1 h)

theorem trimEnd_append_blanks {after : List Char} (h : allBlank after = true) (s : List Char) :
    trimEnd (s ++ after) = trimEnd s := by
  have hrev : allBlank after.reverse = true := by rwa [allBlank, List.all_reverse]
  rw [trimEnd, List.reverse_append, ← trimStart, trimStart_append_blanks hrev]
  rfl

theorem trimStart_eq_nil_iff {s : List Char} : trimStart s = [] ↔ allBlank s = true := by
  rw [trimStart, List.dropWhile_eq_nil_iff, allBlank, List.all_eq_true]

theorem trimEnd_eq_nil_iff {s : List Char} : trimEnd s = [] ↔ allBlank s = true := by
  rw [trimEnd, List.reverse_eq_nil_iff, ← trimStart, trimStart_eq_nil_iff, allBlank,
    List.all_reverse, allBlank]

theorem allBlank_trimStart (s : List Char) : allBlank (trimStart s) = allBlank s := by
  induction s with
  | nil => rfl
  | cons c s ih =>
    by_cases hc : isBlank c = true
    · rw [trimStart_cons_blank hc, ih, allBlank, allBlank, List.all_cons, hc, Bool.true_and]
    · rw [trimStart_cons (Bool.eq_false_iff.2 hc)]

/-- **A text is trimmed to nothing** if it is all blank, and only then. -/
theorem trim_eq_nil_iff {s : List Char} : trim s = [] ↔ allBlank s = true := by
  rw [trim, trimEnd_eq_nil_iff, allBlank_trimStart]

/-- **Blanks around a text are trimmed off.** -/
theorem trim_append_blanks {before after : List Char} (hbefore : allBlank before = true)
    (hafter : allBlank after = true) (s : List Char) : trim (before ++ s ++ after) = trim s := by
  by_cases hs : allBlank s = true
  · have hall : allBlank (before ++ s ++ after) = true := by
      simp only [allBlank, List.all_append, Bool.and_eq_true] at hbefore hs hafter ⊢
      exact ⟨⟨hbefore, hs⟩, hafter⟩
    rw [trim_eq_nil_iff.2 hall, trim_eq_nil_iff.2 hs]
  · -- the blanks at the end stay until the end is trimmed
    have hstart : trimStart (s ++ after) = trimStart s ++ after := by
      rw [trimStart, List.dropWhile_append, ← trimStart,
        if_neg (by simpa [List.isEmpty_iff, trimStart_eq_nil_iff] using hs)]
    rw [trim, List.append_assoc, trimStart_append_blanks hbefore, hstart,
      trimEnd_append_blanks hafter, trim]

/-! ## What is not blank -/

theorem isIdentRest_of_isIdentStart {c : Char} (h : isIdentStart c = true) :
    isIdentRest c = true := by
  simp only [isIdentStart, isIdentRest, Char.isAlphanum, Bool.or_eq_true] at h ⊢
  exact h.imp_left Or.inl

theorem toNat_of_isIdentRest {c : Char} (h : isIdentRest c = true) :
    48 ≤ c.toNat ∧ c.toNat ≤ 122 := by
  have hsplit : ((decide (65 ≤ c.val ∧ c.val ≤ 90) ||
      (decide (97 ≤ c.val) && decide (c.val ≤ 122))) ||
      (decide (48 ≤ c.val) && decide (c.val ≤ 57)) || c == '_') = true := h
  simp only [Bool.or_eq_true, Bool.and_eq_true, decide_eq_true_eq, UInt32.le_iff_toNat_le,
    beq_iff_eq] at hsplit
  rcases hsplit with ((⟨h1, h2⟩ | ⟨h1, h2⟩) | ⟨h1, h2⟩) | rfl
  · exact ⟨Nat.le_trans (by decide) h1, Nat.le_trans h2 (by decide)⟩
  · exact ⟨Nat.le_trans (by decide) h1, h2⟩
  · exact ⟨h1, Nat.le_trans h2 (by decide)⟩
  · decide

theorem isBlank_of_isIdentRest {c : Char} (h : isIdentRest c = true) : isBlank c = false := by
  obtain ⟨h1, h2⟩ := toNat_of_isIdentRest h
  rw [Bool.eq_false_iff]
  intro hb
  obtain ⟨r, hr, hlow, hhigh⟩ := inRanges_iff.1 hb
  simp only [blankRanges, List.mem_cons, List.not_mem_nil, or_false] at hr
  rcases hr with rfl | rfl | rfl | rfl | rfl | rfl | rfl | rfl | rfl | rfl <;>
    (simp only at hlow hhigh; omega)

theorem isBlank_of_isIdentStart {c : Char} (h : isIdentStart c = true) : isBlank c = false :=
  isBlank_of_isIdentRest (isIdentRest_of_isIdentStart h)

/-! ## What trimming keeps -/

theorem count_trimStart {c : Char} (hc : isBlank c = false) (s : List Char) :
    (trimStart s).count c = s.count c := by
  have hblank : (s.takeWhile isBlank).count c = 0 := by
    refine List.count_eq_zero_of_not_mem fun h => ?_
    have := List.all_eq_true.1 List.all_takeWhile c h
    simp [hc] at this
  calc (trimStart s).count c
      = (s.takeWhile isBlank).count c + (s.dropWhile isBlank).count c := by
        rw [hblank, Nat.zero_add, trimStart]
    _ = s.count c := by rw [← List.count_append, List.takeWhile_append_dropWhile]

theorem count_trim {c : Char} (hc : isBlank c = false) (s : List Char) :
    (trim s).count c = s.count c := by
  rw [trim, trimEnd, List.count_reverse, ← trimStart, count_trimStart hc, List.count_reverse,
    count_trimStart hc]

end InfraEvidence.Text
