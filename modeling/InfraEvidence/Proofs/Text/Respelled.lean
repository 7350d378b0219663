/-
  InfraEvidence — words in other spellings.

  A word may be typed with blanks around it, and with its ASCII letters in any
  case.  Neither is seen in the lower case of the trimmed text.

  * `Respells`: a text is another one with blanks around it and its ASCII letters
    in some case;
  * `apply_toLower`: what does not tell the 26 capitals from the small letters
    does not tell any character from its ASCII lower case;
  * `lower_asciiLower`: so a text has the same lower case after its ASCII letters
    are lowered, those around a sigma among them;
  * `trim_asciiLower`: trimming does not see letter case;
  * `Respells.lower_trim`: a word in another spelling has the same lower case.
-/
import InfraEvidence.Proofs.Text.Lowered
import InfraEvidence.Proofs.Text.Trim

namespace InfraEvidence.Text

/-- The text `t` is `s` with blanks around it and its ASCII letters in some case. -/
def Respells (s t : String) : Prop :=
  ∃ before word after, t.toList = before ++ word ++ after ∧ allBlank before = true ∧
    allBlank after = true ∧ asciiLower word = asciiLower s.toList

/-! ## Letter case -/

theorem apply_toLower {α : Type} {f : Char → α}
    (h : ∀ i < 26, f (Char.ofNat (65 + i)).toLower = f (Char.ofNat (65 + i))) (c : Char) :
    f c.toLower = f c := by
  by_cases hc : 65 ≤ c.toNat ∧ c.toNat ≤ 90
  · have hletter := h (c.toNat - 65) (by omega)
    rwa [Nat.add_sub_cancel' hc.1, Char.ofNat_toNat] at hletter
  · -- no other character has another one as its ASCII lower case
    have hkept : c.toLower = c := dif_neg hc
    rw [hkept]

theorem lowerChar_toLower (c : Char) : lowerChar c.toLower = lowerChar c :=
  apply_toLower (f := lowerChar) (by decide) c

theorem isCased_toLower (c : Char) : isCased c.toLower = isCased c :=
  apply_toLower (f := isCased) (by decide) c

theorem isCaseIgnorable_toLower (c : Char) : isCaseIgnorable c.toLower = isCaseIgnorable c :=
  apply_toLower (f := isCaseIgnorable) (by decide) c

theorem isBlank_toLower (c : Char) : isBlank c.toLower = isBlank c :=
  apply_toLower (f := isBlank) (by decide) c

theorem isSigma_toLower (c : Char) : decide (c.toLower.toNat = 0x3A3) = decide (c.toNat = 0x3A3) :=
  apply_toLower (f := fun c => decide (c.toNat = 0x3A3)) (by decide) c

theorem meetsCased_asciiLower (s : List Char) : meetsCased (asciiLower s) = meetsCased s := by
  unfold meetsCased asciiLower
  rw [List.dropWhile_map, show isCaseIgnorable ∘ Char.toLower = isCaseIgnorable from
    funext isCaseIgnorable_toLower]
  cases s.dropWhile isCaseIgnorable with
  | nil => rfl
  | cons c rest => exact isCased_toLower c

theorem lowerAt_asciiLower (before : List Char) (c : Char) (after : List Char) :
    lowerAt (asciiLower before) c.toLower (asciiLower after) = lowerAt before c after := by
  have hsigma : c.toLower.toNat = 0x3A3 ↔ c.toNat = 0x3A3 := by
    simpa using isSigma_toLower c
  unfold lowerAt isFinalSigma
  rw [meetsCased_asciiLower, meetsCased_asciiLower, lowerChar_toLower]
  exact if_congr hsigma rfl rfl

theorem lowerAfter_asciiLower (before s : List Char) :
    lowerAfter (asciiLower before) (asciiLower s) = lowerAfter before s := by
  induction s generalizing before with
  | nil => rfl
  | cons c s ih =>
    calc lowerAfter (asciiLower before) (c.toLower :: asciiLower s)
        = lowerAt (asciiLower before) c.toLower (asciiLower s) ++
            lowerAfter (asciiLower (c :: before)) (asciiLower s) := lowerAfter_cons ..
      _ = lowerAt before c s ++ lowerAfter (c :: before) s := by rw [lowerAt_asciiLower, ih]
      _ = lowerAfter before (c :: s) := (lowerAfter_cons ..).symm

/-- **Lower case does not see the case of ASCII letters.** -/
theorem lower_asciiLower (s : List Char) : lower (asciiLower s) = lower s :=
  lowerAfter_asciiLower [] s

/-! ## Trimming -/

theorem trimStart_asciiLower (s : List Char) :
    trimStart (asciiLower s) = asciiLower (trimStart s) := by
  rw [trimStart, asciiLower, List.dropWhile_map,
    show isBlank ∘ Char.toLower = isBlank from funext isBlank_toLower]
  rfl

theorem trim_asciiLower (s : List Char) : trim (asciiLower s) = asciiLower (trim s) := by
  have hrev : (asciiLower (trimStart s)).reverse = asciiLower (trimStart s).reverse :=
    List.map_reverse.symm
  rw [trim, trimStart_asciiLower, trimEnd, hrev, ← trimStart, trimStart_asciiLower]
  exact List.map_reverse.symm

/-! ## Words -/

/-- **A word in another spelling has the same lower case.** -/
theorem Respells.lower_trim {s t : String} (h : Respells s t) :
    lower (trim t.toList) = lower (trim s.toList) := by
  obtain ⟨before, word, after, ht, hbefore, hafter, hword⟩ := h
  have htrim : trim t.toList = trim word := by
    rw [ht, trim_append_blanks hbefore hafter]
  calc lower (trim t.toList)
      = lower (trim (asciiLower word)) := by rw [htrim, trim_asciiLower, lower_asciiLower]
    _ = lower (trim (asciiLower s.toList)) := by rw [hword]
    _ = lower (trim s.toList) := by rw [trim_asciiLower, lower_asciiLower]

example : Respells "Σas" "\u2003ΣAS\n" :=
  ⟨['\u2003'], "ΣAS".toList, ['\n'], by decide, by decide, by decide, by decide⟩

end InfraEvidence.Text
