/-
  InfraEvidence — texts by their lines.

  * `Lined`: a sequence of symbols is made of some lines; every line has an end,
    which belongs to no line, but the last one may lack it;
  * `lined_iff`: the lines that are read are the lines that a sequence is made of;
  * `lines_crlf`, `lines_concat_lineFeed`: carriage returns before the line feeds,
    and a line feed at the very end, change no line.
-/
import InfraEvidence.Proofs.Text.LineEnds
import InfraEvidence.Proofs.Text.Replaced

namespace InfraEvidence.Text

section
variable {α : Type} {lf cr : α}

/-- The sequence is made of these lines.  A line ends in `lf`, or in `cr` and
    `lf`; the last one may end with the sequence. -/
inductive Lined (lf cr : α) : List α → List (List α) → Prop
  | nil : Lined lf cr [] []
  | last {l} (hne : l ≠ []) (hlf : lf ∉ l) : Lined lf cr l [l]
  | feed {l s ls} (hlf : lf ∉ l) (hcr : l.getLast? ≠ some cr) (h : Lined lf cr s ls) :
      Lined lf cr (l ++ lf :: s) (l :: ls)
  | crFeed {l s ls} (hlf : lf ∉ l) (h : Lined lf cr s ls) :
      Lined lf cr (l ++ cr :: lf :: s) (l :: ls)

variable [DecidableEq α]

theorem exists_lined (s : List α) : ∃ ls, Lined lf cr s ls := by
  -- the text behind the first line end is shorter
  induction hn : s.length using Nat.strongRecOn generalizing s with
  | ind n ih =>
    subst hn
    by_cases hmem : lf ∈ s
    · obtain ⟨l, rest, rfl, hl⟩ := List.eq_append_cons_of_mem hmem
      obtain ⟨ls, hls⟩ := ih rest.length (by simp; omega) rest rfl
      by_cases hcr : l.getLast? = some cr
      · obtain ⟨l, rfl⟩ := List.getLast?_eq_some_iff.1 hcr
        rw [List.append_assoc, List.singleton_append]
        exact ⟨l :: ls, .crFeed (fun h => hl (List.mem_append_left _ h)) hls⟩
      · exact ⟨l :: ls, .feed hl hcr hls⟩
    · by_cases hnil : s = []
      · exact ⟨[], hnil ▸ .nil⟩
      · exact ⟨[s], .last hnil hmem⟩

theorem Lined.linesOf_eq (hne : cr ≠ lf) {s : List α} {ls : List (List α)} (h : Lined lf cr s ls) :
    linesOf lf cr s = ls := by
  induction h with
  | nil => rfl
  | last hl hlf => exact linesOf_of_not_mem hl hlf
  | feed hlf hcr _ ih => rw [linesOf_append _ _ hlf hcr, ih]
  | crFeed hlf _ ih => rw [linesOf_append_crlf hne hlf, ih]

/-- **The lines that are read are the lines that a sequence is made of.** -/
theorem lined_iff (hne : cr ≠ lf) {s : List α} {ls : List (List α)} :
    Lined lf cr s ls ↔ linesOf lf cr s = ls := by
  constructor
  · exact Lined.linesOf_eq hne
  · rintro rfl
    obtain ⟨ls, h⟩ : ∃ ls, Lined lf cr s ls := exists_lined s
    rwa [h.linesOf_eq hne]

end

/-! ## Other line ends -/

theorem lined_lines (s : List Char) : Lined '\n' '\r' s (lines s) :=
  (lined_iff (by decide)).2 rfl

theorem Lined.crlf {s : List Char} {ls : List (List Char)} (h : Lined '\n' '\r' s ls)
    (hcr : '\r' ∉ s) : Lined '\n' '\r' (replaceAll ['\n'] ['\r', '\n'] s) ls := by
  have hkeep : ∀ {l : List Char}, '\n' ∉ l → ∀ t : List Char,
      replaceAll ['\n'] ['\r', '\n'] (l ++ t) = l ++ replaceAll ['\n'] ['\r', '\n'] t :=
    fun hlf => replaceAll_append rfl hlf
  have hfeed : ∀ t : List Char, replaceAll ['\n'] ['\r', '\n'] ('\n' :: t) =
      '\r' :: '\n' :: replaceAll ['\n'] ['\r', '\n'] t :=
    replaceAll_occurrence (List.cons_ne_nil _ _)
  induction h with
  | nil => exact .nil
  | @last l hne hlf =>
    have hnil : replaceAll ['\n'] ['\r', '\n'] [] = [] := rfl
    have hself := hkeep hlf []
    rw [hnil, List.append_nil] at hself
    rw [hself]
    exact .last hne hlf
  | @feed l s ls hlf _ _ ih =>
    have hs : '\r' ∉ s := fun hmem => hcr (by simp [hmem])
    rw [hkeep hlf, hfeed]
    exact .crFeed hlf (ih hs)
  | crFeed => exact absurd hcr (by simp)

theorem Lined.concat_lineFeed {s : List Char} {ls : List (List Char)} (h : Lined '\n' '\r' s ls)
    (hcr : '\r' ∉ s) (hne : s ≠ []) (hend : s.getLast? ≠ some '\n') :
    Lined '\n' '\r' (s ++ ['\n']) ls := by
  induction h with
  | nil => contradiction
  | @last l _ hlf => exact .feed hlf (fun hlast => hcr (List.mem_of_getLast? hlast)) .nil
  | @feed l s ls hlf hlast _ ih =>
    have hs : '\r' ∉ s := fun hmem => hcr (by simp [hmem])
    have hne' : s ≠ [] := by
      rintro rfl
      simp at hend
    have hend' : s.getLast? ≠ some '\n' := by
      obtain ⟨c, s, rfl⟩ := List.exists_cons_of_ne_nil hne'
      simpa [List.getLast?_append] using hend
    rw [List.append_assoc, List.cons_append]
    exact .feed hlf hlast (ih hs hne' hend')
  | crFeed => exact absurd hcr (by simp)

/-- **Carriage returns before the line feeds change no line.** -/
theorem lines_crlf {s : List Char} (hcr : '\r' ∉ s) :
    lines (replaceAll ['\n'] ['\r', '\n'] s) = lines s :=
  ((lined_lines s).crlf hcr).linesOf_eq (by decide)

/-- **A line feed at the very end changes no line.** -/
theorem lines_concat_lineFeed {s : List Char} (hcr : '\r' ∉ s) (hne : s ≠ [])
    (hend : s.getLast? ≠ some '\n') : lines (s ++ ['\n']) = lines s :=
  ((lined_lines s).concat_lineFeed hcr hne hend).linesOf_eq (by decide)

end InfraEvidence.Text
