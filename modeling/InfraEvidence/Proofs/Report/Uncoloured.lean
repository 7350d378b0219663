/-
  InfraEvidence — colours and the text of the report for terminals.

  * `Terminal.withoutSequences`: a text without its control sequences for colours:
    an escape character and `[`, digits and semicolons, and `m`;
  * `Terminal.afterSequence?_eq_some_iff`: the texts that begin with a sequence;
  * `Terminal.Shows`: a text in colours shows a plain text, whatever follows the
    two: every part of the report keeps this, from a single text that is set off
    (`shows_styled`) to tables, headings and the scores;
  * `Terminal.texts`, `exists_resource_mem_texts`: the texts of an analysis, among
    which are all those that a report takes from it;
  * `Terminal.render_uncoloured`: so the report in colours shows the one without.
-/
import InfraEvidence.Proofs.Number.Written
import InfraEvidence.Proofs.Posture.Findings
import InfraEvidence.Proofs.Report.Drawn
import InfraEvidence.Report.Terminal

namespace InfraEvidence

open Posture

namespace Terminal

/-! ## Control sequences -/

/-- The character that control sequences begin with. -/
def escape : Char := Char.ofNat 0x1B

/-- A character of the parameters of a sequence for colours. -/
def isParameter (c : Char) : Bool := c.isDigit || c == ';'

/-- What follows the sequence that a text begins with, if it begins with one. -/
def afterSequence? : List Char → Option (List Char)
  | first :: '[' :: rest =>
    if first = escape then
      match rest.dropWhile isParameter with
      | 'm' :: rest => some rest
      | _ => none
    else none
  | _ => none

theorem afterSequence?_eq_some_iff {s rest : List Char} :
    afterSequence? s = some rest ↔
      ∃ ps, (∀ p ∈ ps, isParameter p = true) ∧ s = escape :: '[' :: (ps ++ 'm' :: rest) := by
  constructor
  · intro h
    unfold afterSequence? at h
    split at h
    · next first tail =>
      split at h
      · next hfirst =>
        split at h
        · next rest' hdrop =>
          obtain rfl := Option.some.inj h
          refine ⟨tail.takeWhile isParameter, List.all_eq_true.1 List.all_takeWhile, ?_⟩
          rw [hfirst, ← hdrop, List.takeWhile_append_dropWhile]
        · contradiction
      · contradiction
    · contradiction
  · rintro ⟨ps, hps, rfl⟩
    have hdrop : (ps ++ 'm' :: rest).dropWhile isParameter = 'm' :: rest := by
      rw [List.dropWhile_append_of_pos hps, List.dropWhile_cons_of_neg (by decide)]
    simp only [afterSequence?, if_true, hdrop]

theorem length_afterSequence? {s rest : List Char} (h : afterSequence? s = some rest) :
    rest.length < s.length := by
  obtain ⟨ps, -, rfl⟩ := afterSequence?_eq_some_iff.1 h
  simp only [List.length_cons, List.length_append]
  omega

/-- A text without its sequences for colours. -/
def withoutSequences (s : List Char) : List Char :=
  match _h : afterSequence? s with
  | some rest => withoutSequences rest
  | none =>
    match s with
    | [] => []
    | c :: rest => c :: withoutSequences rest
termination_by s.length
decreasing_by
  · exact length_afterSequence? _h
  · exact Nat.lt_succ_self _

theorem withoutSequences_of_some {s rest : List Char} (h : afterSequence? s = some rest) :
    withoutSequences s = withoutSequences rest := by
  rw [withoutSequences]
  split
  · next rest' h' => rw [Option.some.inj (h'.symm.trans h)]
  · next h' => rw [h] at h'; contradiction

theorem withoutSequences_cons {c : Char} (h : c ≠ escape) (s : List Char) :
    withoutSequences (c :: s) = c :: withoutSequences s := by
  have hnone : afterSequence? (c :: s) = none := by
    rw [Option.eq_none_iff_forall_ne_some]
    intro rest hrest
    obtain ⟨_, -, hs⟩ := afterSequence?_eq_some_iff.1 hrest
    exact h (List.cons.inj hs).1
  rw [withoutSequences]
  split
  · next h' => rw [hnone] at h'; contradiction
  · rfl

theorem withoutSequences_append {s : List Char} (h : escape ∉ s) (rest : List Char) :
    withoutSequences (s ++ rest) = s ++ withoutSequences rest := by
  induction s with
  | nil => rfl
  | cons c s ih =>
    obtain ⟨hc, hs⟩ := List.ne_and_not_mem_of_not_mem_cons h
    rw [List.cons_append, withoutSequences_cons hc.symm, ih hs, List.cons_append]

theorem withoutSequences_sequence {parameters : String}
    (h : parameters.toList.all isParameter = true) (rest : List Char) :
    withoutSequences ((sequence parameters).toList ++ rest) = withoutSequences rest := by
  refine withoutSequences_of_some
    (afterSequence?_eq_some_iff.2 ⟨parameters.toList, List.all_eq_true.1 h, ?_⟩)
  simp [sequence, escape]

/-! ## Texts in colours -/

/-- The text has no escape character. -/
def IsPlain (s : String) : Prop := escape ∉ s.toList

instance (s : String) : Decidable (IsPlain s) := inferInstanceAs (Decidable (¬ _ ∈ _))

theorem IsPlain.append {s t : String} (hs : IsPlain s) (ht : IsPlain t) : IsPlain (s ++ t) := by
  rw [IsPlain, String.toList_append, List.mem_append]
  exact fun h => h.elim hs ht

theorem isPlain_toString (n : Nat) : IsPlain (toString n) := fun h =>
  absurd (Number.isDigit_of_mem_toString h) (by decide)

theorem isPlain_scoreText (score : Float) : IsPlain (PostureDocument.scoreText score) := fun h =>
  absurd (Fixed.isWritten_of_mem_render h) (by decide)

/-- The text `s`, without the sequences in it, is the plain text `t`, whatever
    follows the two: what a text ends in and what comes next must not make up a
    sequence together. -/
structure Shows (s t : String) : Prop where
  plain : IsPlain t
  without : ∀ rest, withoutSequences (s.toList ++ rest) = t.toList ++ withoutSequences rest

theorem Shows.of_plain {s : String} (h : IsPlain s) : Shows s s :=
  ⟨h, withoutSequences_append h⟩

theorem Shows.append {s t s' t' : String} (h : Shows s t) (h' : Shows s' t') :
    Shows (s ++ s') (t ++ t') := by
  refine ⟨h.plain.append h'.plain, fun rest => ?_⟩
  rw [String.toList_append, List.append_assoc, h.without, h'.without, String.toList_append,
    List.append_assoc]

theorem Shows.eq {s t : String} (h : Shows s t) :
    String.ofList (withoutSequences s.toList) = t := by
  have hall := h.without []
  have hnil : withoutSequences [] = [] := by rw [withoutSequences]; rfl
  rw [hnil, List.append_nil, List.append_nil] at hall
  rw [hall, String.ofList_toList]

theorem shows_lineFeed : Shows "\n" "\n" := .of_plain (by decide)

/-- **A text that is set off shows what it is without.** -/
theorem shows_styled (colored : Bool) (style : Style) {s : String} (h : IsPlain s) :
    Shows (styled colored style s) s := by
  cases colored with
  | false => exact .of_plain h
  | true =>
    have hstyle : style.parameters.toList.all isParameter = true := by
      cases style <;> decide
    have hend : "0".toList.all isParameter = true := by decide
    refine ⟨h, fun rest => ?_⟩
    rw [styled, if_pos rfl, String.toList_append, String.toList_append, List.append_assoc,
      List.append_assoc, withoutSequences_sequence hstyle, withoutSequences_append h,
      withoutSequences_sequence hend]

/-! ## The parts of the report -/

theorem isPlain_line {c : Char} (h : c ≠ escape) : IsPlain (line c) := by
  rw [IsPlain, line, Text.toList_pushn]
  simpa using h.symm

theorem shows_header (colored : Bool) : Shows (header colored) (header false) := by
  have hspace : Shows " " " " := .of_plain (by decide)
  have hrule : IsPlain (line '=') := isPlain_line (by decide)
  exact (((((shows_lineFeed.append (shows_styled colored .title (by decide))).append
    hspace).append (shows_styled colored .faint (by decide))).append shows_lineFeed).append
      (shows_styled colored .rule hrule)).append shows_lineFeed

theorem shows_partTitle (colored : Bool) {title : String} (h : IsPlain title) :
    Shows (partTitle colored title) (partTitle false title) := by
  have hrule : Shows (line '-') (line '-') := .of_plain (isPlain_line (by decide))
  exact (((shows_lineFeed.append (shows_styled colored .heading h)).append
    shows_lineFeed).append hrule).append shows_lineFeed

/-- **A table is plain** if its cells are. -/
theorem isPlain_render {t : Table} (hheader : ∀ cell ∈ t.header, IsPlain cell)
    (hrows : ∀ row ∈ t.rows, ∀ cell ∈ row, IsPlain cell) : IsPlain t.render := by
  intro h
  rcases Table.mem_render h with h | ⟨cell, hcell, h⟩ | ⟨row, hrow, cell, hcell, h⟩
  · exact absurd h (by decide)
  · exact hheader cell hcell h
  · exact hrows row hrow cell hcell h

theorem isPlain_details (a : Analysis) : IsPlain (details a) := by
  cases a with
  | encryption a =>
    exact (((((isPlain_toString _).append (by decide)).append (isPlain_toString _)).append
      (by decide)).append (isPlain_toString _)).append (by decide)
  | access a =>
    exact (((((isPlain_toString _).append (by decide)).append (isPlain_toString _)).append
      (by decide)).append (isPlain_toString _)).append (by decide)
  | network a =>
    exact (((isPlain_toString _).append (by decide)).append (isPlain_toString _)).append (by decide)

theorem isPlain_scoreTable (as : List Analysis) : IsPlain (scoreTable as).render := by
  refine isPlain_render (by decide : ∀ cell ∈ ["Category", "Score", "Details"], IsPlain cell) ?_
  intro row hrow
  obtain ⟨a, -, rfl⟩ := List.mem_map.1 hrow
  have hcategory : IsPlain a.category := by
    have hall : ∀ name ∈ ["encryption", "iam", "network"], IsPlain name := by decide
    cases a <;> exact hall _ (by simp [Analysis.category])
  simp only [List.forall_mem_cons, List.not_mem_nil, false_implies, implies_true, and_true]
  exact ⟨hcategory, isPlain_scoreText _, isPlain_details a⟩

theorem shows_scores (colored : Bool) (as : List Analysis) :
    Shows (scores colored as) (scores false as) := by
  have hlabel : Shows "\n  Overall compliance score: " "\n  Overall compliance score: " :=
    .of_plain (by decide)
  exact (((((shows_partTitle colored (by decide)).append
    (.of_plain (isPlain_scoreTable as))).append shows_lineFeed).append hlabel).append
      (shows_styled colored .strong (isPlain_scoreText _))).append shows_lineFeed

theorem shows_gapPart (colored : Bool) {gs : List Gap} (h : ∀ g ∈ gs, IsPlain g.resource) :
    Shows (gapPart colored gs) (gapPart false gs) := by
  unfold gapPart
  split
  · exact .of_plain (by decide)
  · have htable : IsPlain (gapTable gs).render := by
      refine isPlain_render
        (by decide : ∀ cell ∈ ["Severity", "Category", "Resource", "Description"], IsPlain cell) ?_
      intro row hrow
      obtain ⟨g, hg, rfl⟩ := List.mem_map.1 hrow
      have hwords : IsPlain g.kind.severity.capitals ∧ IsPlain g.kind.name ∧
          IsPlain g.kind.description := by
        cases g.kind <;> decide
      simp only [gapRow, List.forall_mem_cons, List.not_mem_nil, false_implies, implies_true,
        and_true]
      exact ⟨hwords.1, hwords.2.1, h g hg, hwords.2.2⟩
    exact ((shows_partTitle colored (by decide)).append (.of_plain htable)).append shows_lineFeed

/-! ## What a report takes from analyses -/

/-- The texts in an analysis. -/
def texts : Analysis → List String
  | .encryption a =>
    a.encrypted ++ a.unencrypted ++ a.methods.entries.flatMap fun e => e.1 :: e.2
  | .access a => a.roles ++ a.policies ++ a.permissive
  | .network a => a.groups ++ a.openRanges ++ a.restricted

/-- The texts in some findings. -/
def findingTexts (f : Findings) : List String := f.unencrypted ++ f.permissive ++ f.openRanges

theorem findingTexts_take {a : Analysis} {f : Findings} {s : String}
    (h : s ∈ findingTexts (f.take a)) : s ∈ findingTexts f ∨ s ∈ texts a := by
  cases a <;> grind [findingTexts, Findings.take, texts]

theorem findingTexts_foldl {as : List Analysis} {f : Findings} {s : String}
    (h : s ∈ findingTexts (as.foldl Findings.take f)) :
    s ∈ findingTexts f ∨ ∃ a ∈ as, s ∈ texts a := by
  induction as generalizing f with
  | nil => exact Or.inl h
  | cons a as ih =>
    rcases ih h with h | ⟨a', ha', hs⟩
    · exact (findingTexts_take h).imp_right fun hs => ⟨a, List.mem_cons_self, hs⟩
    · exact Or.inr ⟨a', List.mem_cons_of_mem a ha', hs⟩

theorem resource_mem_findingTexts {f : Findings} {r : Requirements} {g : Gap} (h : g ∈ gaps f r) :
    g.resource ∈ findingTexts f := by
  have hgap : ∀ {required kind resources}, g ∈ gapsOf required kind resources →
      g.resource ∈ resources := fun hg => (mem_gapsOf hg).2
  simp only [gaps, findingTexts, List.mem_append] at h ⊢
  exact h.imp (Or.imp hgap hgap) hgap

/-- **The gaps in a report are about texts of its analyses.** -/
theorem exists_resource_mem_texts {as : List Analysis} {r : Requirements} {g : Gap}
    (h : g ∈ gaps (Findings.ofAnalyses as) r) : ∃ a ∈ as, g.resource ∈ texts a :=
  (findingTexts_foldl (resource_mem_findingTexts h)).resolve_left List.not_mem_nil

/-! ## The main result -/

/-- **Colours do not change the text of the report.**  For analyses without an
    escape character in their texts, the report without colours has none either,
    and a report, in colours or not, is this one as soon as its sequences for
    colours are taken away. -/
theorem render_uncoloured {as : List Analysis} (h : ∀ a ∈ as, ∀ s ∈ texts a, IsPlain s)
    (colored : Bool) :
    String.ofList (withoutSequences (render colored as).toList) = render false as ∧
      IsPlain (render false as) := by
  have hgaps : ∀ g ∈ gaps (Findings.ofAnalyses as) {}, IsPlain g.resource := by
    intro g hg
    obtain ⟨a, ha, hresource⟩ := exists_resource_mem_texts hg
    exact h a ha g.resource hresource
  have hshows : Shows (render colored as) (render false as) :=
    ((shows_header colored).append (shows_scores colored as)).append (shows_gapPart colored hgaps)
  exact ⟨hshows.eq, hshows.plain⟩

/-- A group with an open range, whose name looks like the end of a sequence. -/
def openGroup : List Block :=
  [(Block.starting "main.tf" "aws_security_group" "[0m" 1).set "cidr_blocks" "0.0.0.0/0"]

/-- The name is kept, although sequences end like it, and the sequences are not. -/
theorem render_uncoloured_group :
    let as := analyzeAll openGroup
    (∀ a ∈ as, ∀ s ∈ texts a, IsPlain s) ∧
      (gaps (Findings.ofAnalyses as) {}).map Gap.resource = ["aws_security_group.[0m"] ∧
      render true as ≠ render false as ∧
      String.ofList (withoutSequences (render true as).toList) = render false as := by
  intro as
  have htexts : ∀ a ∈ as, ∀ s ∈ texts a, IsPlain s := by decide +kernel
  obtain ⟨hshown, hplain⟩ := render_uncoloured htexts true
  refine ⟨htexts, by decide +kernel, fun heq => ?_, hshown⟩
  have hstart : escape ∈ (header true).toList := by decide +kernel
  refine hplain (heq ▸ ?_)
  rw [render, String.toList_append, String.toList_append]
  exact List.mem_append_left _ (List.mem_append_left _ hstart)

end Terminal

end InfraEvidence
