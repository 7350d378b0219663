/-
  InfraEvidence — the ends of lines.

  * `dropCr`: a line without the carriage return before its line feed;
  * `lines_append`: the first line of a text is what stands before its first
    line feed, without that carriage return;
  * `lines_unlines_eq`: the lines of a text that was put together from lines;
  * `trim_dropCr`: trimmed, a line is the same with and without it;
  * `mem_lines`: lines have the characters of their text, line feeds aside;
  * `lines_append_of_ends`: after a line feed the lines begin anew;
  * `IsMadeOf`: a text is made of some lines, with or without a line feed after
    the last one;
  * `replaceAll_crlf_unlines`: the text of the lines without their carriage
    returns, as a replacement in the text of the lines.
-/
import InfraEvidence.Proofs.Text.Trim
import InfraEvidence.Text.Lines
import InfraEvidence.Text.Search

namespace InfraEvidence.Text

/-- A line without one carriage return at its end. -/
def dropCr (l : List Char) : List Char := if l.getLast? = some '\r' then l.dropLast else l

theorem dropCr_concat (l : List Char) : dropCr (l ++ ['\r']) = l := by
  simp [dropCr]

theorem dropCr_of_getLast {l : List Char} (h : l.getLast? ≠ some '\r') : dropCr l = l :=
  if_neg h

theorem dropCr_cases (l : List Char) : dropCr l = l ∨ l = dropCr l ++ ['\r'] := by
  by_cases h : l.getLast? = some '\r'
  · obtain ⟨s, rfl⟩ := List.getLast?_eq_some_iff.1 h
    rw [dropCr_concat]
    exact Or.inr rfl
  · exact Or.inl (dropCr_of_getLast h)

theorem mem_of_mem_dropCr {c : Char} {l : List Char} (h : c ∈ dropCr l) : c ∈ l := by
  rcases dropCr_cases l with e | e
  · rwa [e] at h
  · rw [e]
    exact List.mem_append_left _ h

section
variable {α : Type} [DecidableEq α] {lf cr : α}

theorem linesOf_append_crlf (hne : cr ≠ lf) {l : List α} (hn : lf ∉ l) (s : List α) :
    linesOf lf cr (l ++ cr :: lf :: s) = l :: linesOf lf cr s := by
  induction l with
  | nil => simp [linesOf, hne]
  | cons c l ih =>
    have hc : c ≠ lf := fun e => hn (by simp [e])
    have hend : ¬ (c = cr ∧ (l ++ cr :: lf :: s).head? = some lf) := by
      rintro ⟨-, h⟩
      cases l with
      | nil => exact hne (by simpa using h)
      | cons d l => exact hn (by simp_all)
    rw [List.cons_append, linesOf, if_neg hc, if_neg hend, ih fun m => hn (by simp [m]), consFirst]

theorem linesOf_of_not_mem {l : List α} (hne : l ≠ []) (hn : lf ∉ l) : linesOf lf cr l = [l] := by
  induction l with
  | nil => contradiction
  | cons c l ih =>
    obtain ⟨hc, hl⟩ := List.ne_and_not_mem_of_not_mem_cons hn
    have hend : ¬ (c = cr ∧ l.head? = some lf) := by
      rintro ⟨-, h⟩
      exact hl (List.mem_of_head? h)
    rw [linesOf, if_neg (Ne.symm hc), if_neg hend]
    cases l with
    | nil => rfl
    | cons d l => rw [ih (List.cons_ne_nil _ _) hl, consFirst]

end

/-- **What stands before the first line feed is the first line**, a carriage
    return at its end aside. -/
theorem lines_append {l : List Char} (hn : '\n' ∉ l) (s : List Char) :
    lines (l ++ '\n' :: s) = dropCr l :: lines s := by
  by_cases h : l.getLast? = some '\r'
  · obtain ⟨l, rfl⟩ := List.getLast?_eq_some_iff.1 h
    rw [dropCr_concat, List.append_assoc, List.singleton_append]
    exact linesOf_append_crlf (by decide) (fun hm => hn (by simp [hm])) s
  · rw [dropCr_of_getLast h]
    exact linesOf_append _ _ hn h s

theorem lines_unlines_eq {ls : List (List Char)} (h : ∀ l ∈ ls, '\n' ∉ l) :
    lines (unlines ls) = ls.map dropCr := by
  induction ls with
  | nil => rfl
  | cons l ls ih =>
    rw [unlines, List.flatMap_cons, List.append_assoc, List.singleton_append,
      lines_append (h l (by simp)), List.map_cons]
    exact congrArg (dropCr l :: ·) (ih fun x hx => h x (by simp [hx]))

theorem trim_concat_blank {c : Char} (h : isBlank c = true) (l : List Char) :
    trim (l ++ [c]) = trim l := by
  unfold trim
  rw [show trimStart (l ++ [c]) = _ from List.dropWhile_append]
  split
  · next hl =>
    rw [List.dropWhile_cons_of_pos h, trimStart, List.isEmpty_iff.1 hl]
    rfl
  · exact trimEnd_concat_blank h _

theorem trim_dropCr (l : List Char) : trim (dropCr l) = trim l := by
  rcases dropCr_cases l with h | h
  · rw [h]
  · -- a carriage return is a blank
    rw [h, dropCr_concat, trim_concat_blank (by decide)]

/-! ## The characters of lines -/

theorem mem_consFirst {α : Type} {c : α} {l : List α} {ls : List (List α)}
    (h : l ∈ consFirst c ls) : l = [c] ∨ l ∈ ls ∨ ∃ l' ∈ ls, l = c :: l' := by
  cases ls with
  | nil => exact Or.inl (List.mem_singleton.1 h)
  | cons l' ls =>
    rcases List.mem_cons.1 h with rfl | h
    · exact Or.inr (Or.inr ⟨l', by simp, rfl⟩)
    · exact Or.inr (Or.inl (List.mem_cons_of_mem _ h))

theorem mem_lines {s l : List Char} (h : l ∈ lines s) : ∀ c ∈ l, c ∈ s ∧ c ≠ '\n' := by
  unfold lines at h
  induction s generalizing l with
  | nil => simp [linesOf] at h
  | cons d s ih =>
    have hrest : ∀ l ∈ linesOf '\n' '\r' s, ∀ c ∈ l, c ∈ d :: s ∧ c ≠ '\n' := fun l hl c hc =>
      ⟨List.mem_cons_of_mem _ (ih hl c hc).1, (ih hl c hc).2⟩
    rw [linesOf] at h
    split at h
    · rcases List.mem_cons.1 h with rfl | h
      · simp
      · exact hrest l h
    · next hd =>
      split at h
      · exact hrest l h
      · rcases mem_consFirst h with rfl | h | ⟨l', hl', rfl⟩
        · simp [hd]
        · exact hrest l h
        · exact List.forall_mem_cons.2 ⟨⟨by simp, hd⟩, hrest l' hl'⟩

theorem lineFeed_lines {s l : List Char} (h : l ∈ lines s) : '\n' ∉ l :=
  fun hn => (mem_lines h _ hn).2 rfl

theorem linesOf_ne_nil {α : Type} [DecidableEq α] {lf cr : α} {s : List α}
    (h : s.getLast? = some lf) : linesOf lf cr s ≠ [] := by
  induction s with
  | nil => simp at h
  | cons c s ih =>
    rw [linesOf]
    split
    · simp
    · next hc =>
      have hs : s.getLast? = some lf := by
        cases s with
        | nil => simp at h; exact absurd h hc
        | cons d s => rwa [List.getLast?_cons_cons] at h
      split
      · exact ih hs
      · cases hl : linesOf lf cr s <;> simp [consFirst]

/-- **After a line feed the lines begin anew.** -/
theorem lines_append_of_ends {s : List Char} (h : s = [] ∨ s.getLast? = some '\n') (t : List Char) :
    lines (s ++ t) = lines s ++ lines t := by
  unfold lines
  induction s with
  | nil => rfl
  | cons c s ih =>
    have hlast : (c :: s).getLast? = some '\n' := h.resolve_left (List.cons_ne_nil _ _)
    have hs : c = '\n' ∧ s = [] ∨ s.getLast? = some '\n' := by
      cases s with
      | nil => exact Or.inl ⟨by simpa using hlast, rfl⟩
      | cons d s => exact Or.inr (by rwa [List.getLast?_cons_cons] at hlast)
    have hih : linesOf '\n' '\r' (s ++ t) = linesOf '\n' '\r' s ++ linesOf '\n' '\r' t :=
      ih (hs.imp_left And.right)
    rw [List.cons_append, linesOf, linesOf, hih]
    by_cases hc : c = '\n'
    · rw [if_pos hc, if_pos hc, List.cons_append]
    · have hs : s.getLast? = some '\n' := hs.resolve_left fun e => hc e.1
      have hhead : (s ++ t).head? = s.head? := by
        cases s with
        | nil => simp at hs
        | cons d s => rfl
      rw [if_neg hc, if_neg hc, hhead]
      split
      · rfl
      · have hne : linesOf '\n' '\r' s ≠ [] := linesOf_ne_nil hs
        obtain ⟨l, ls, hl⟩ := List.exists_cons_of_ne_nil hne
        rw [hl, List.cons_append, consFirst, consFirst, List.cons_append]

theorem ends_unlines (ls : List (List Char)) :
    unlines ls = [] ∨ (unlines ls).getLast? = some '\n' := by
  rcases List.eq_nil_or_concat ls with rfl | ⟨ls, l, rfl⟩
  · exact Or.inl rfl
  · refine Or.inr ?_
    rw [unlines, List.concat_eq_append, List.flatMap_append, List.flatMap_singleton,
      ← List.append_assoc, List.getLast?_concat]

/-- The text is made of these lines; each has its line feed, but the last one
    may lack it. -/
def IsMadeOf (text : String) (ls : List (List Char)) : Prop :=
  text.toList = unlines ls ∨ text.toList ++ ['\n'] = unlines ls

/-- **The lines that a text is made of are read from it**, without carriage
    returns at their ends, if the last one has neither that nor nothing in it. -/
theorem IsMadeOf.lines_eq {text : String} {ls : List (List Char)} {last : List Char}
    (h : IsMadeOf text (ls ++ [last])) (hfeed : ∀ l ∈ ls ++ [last], '\n' ∉ l) (hne : last ≠ [])
    (hlast : last.getLast? ≠ some '\r') :
    lines text.toList = ls.map dropCr ++ [last] := by
  have hread : (ls ++ [last]).map dropCr = ls.map dropCr ++ [last] := by
    rw [List.map_append, List.map_singleton, dropCr_of_getLast hlast]
  rcases h with h | h
  · rw [h, lines_unlines_eq hfeed, hread]
  · have hsplit : unlines (ls ++ [last]) = unlines ls ++ last ++ ['\n'] := by
      simp [unlines]
    have hls : ∀ l ∈ ls, '\n' ∉ l := fun l hl => hfeed l (List.mem_append_left _ hl)
    have hone : lines last = [last] := linesOf_of_not_mem hne (hfeed last (by simp))
    rw [hsplit] at h
    rw [List.append_cancel_right h, lines_append_of_ends (ends_unlines ls), lines_unlines_eq hls,
      hone]

/-! ## Line ends without carriage returns -/

theorem dropCr_cons_cons (c d : Char) (l : List Char) :
    dropCr (c :: d :: l) = c :: dropCr (d :: l) := by
  unfold dropCr
  rw [List.getLast?_cons_cons]
  split <;> rfl

theorem replaceAll_crlf_append {l : List Char} (hn : '\n' ∉ l) (s : List Char) :
    replaceAll ['\r', '\n'] ['\n'] (l ++ '\n' :: s) =
      dropCr l ++ '\n' :: replaceAll ['\r', '\n'] ['\n'] s := by
  unfold replaceAll
  induction l with
  | nil => simp [replaceFrom, dropCr]
  | cons c l ih =>
    obtain ⟨hc, hl⟩ := List.ne_and_not_mem_of_not_mem_cons hn
    cases l with
    | nil =>
      by_cases hr : c = '\r'
      · subst hr; simp [replaceFrom, dropCr]
      · simp [replaceFrom, dropCr, hr, Ne.symm hr]
    | cons d l =>
      have hd : d ≠ '\n' := fun e => hl (by simp [e])
      have hpre : ['\r', '\n'].isPrefixOf (c :: (d :: l ++ '\n' :: s)) = false := by
        simp [List.isPrefixOf, Ne.symm hd]
      rw [List.cons_append, replaceFrom, hpre, if_neg (by decide), ih hl, dropCr_cons_cons,
        List.cons_append]

theorem replaceAll_crlf_unlines {ls : List (List Char)} (h : ∀ l ∈ ls, '\n' ∉ l) :
    replaceAll ['\r', '\n'] ['\n'] (unlines ls) = unlines (ls.map dropCr) := by
  induction ls with
  | nil => rfl
  | cons l ls ih =>
    have hrest := ih fun x hx => h x (by simp [hx])
    unfold unlines at hrest ⊢
    rw [List.flatMap_cons, List.append_assoc, List.singleton_append,
      replaceAll_crlf_append (h l (by simp)), hrest]
    simp

end InfraEvidence.Text
