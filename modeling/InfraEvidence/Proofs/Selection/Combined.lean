/-
  InfraEvidence — selections of the three kinds, side by side.

  Blocks are selected by free terms, by control codes, and by groups of controls.
  The three put a term to different tests, and treat terms alike.

  * `Selection.Criterion`: the three kinds, each with its test and its selection;
  * `Criterion.select_eq_filter`: a selection keeps the blocks that one of its
    texts asks for, in their order;
  * `matchesTerm_of_codeMatches`, `matchesControl_of_codeMatches`: the test for
    control codes is the strictest one;
  * `selections_combine`: selections by codes are parts of those by terms and by
    controls; more texts keep what either list keeps; other words for the same
    keep the same; selections may be made in any order.
-/
import InfraEvidence.Proofs.Selection.Terms

namespace InfraEvidence.Selection

open Text

/-- What blocks are selected by. -/
inductive Criterion where
  /-- Free terms -/
  | terms
  /-- Control codes -/
  | codes
  /-- Parts of control codes, and groups of controls -/
  | controls

namespace Criterion

/-- The test that a term is put to. -/
def test : Criterion → Block → List Char → Bool
  | terms => matchesTerm
  | codes => codeMatches
  | controls => matchesControl

/-- The selection by some texts. -/
def select : Criterion → List String → List Block → List Block
  | terms => byTerms
  | codes => byCodes
  | controls => byControls

variable {c d : Criterion} {texts later : List String}

theorem select_eq (c : Criterion) (texts : List String) (bs : List Block) :
    c.select texts bs = bs.filter (admits c.test texts) := by
  cases c <;> exact keep_eq_filter texts bs

/-- **A selection keeps the blocks that one of its texts asks for.** -/
theorem select_eq_filter (h : Speaks texts) (bs : List Block) :
    c.select texts bs = bs.filter (Asks c.test texts ·) := by
  rw [select_eq]
  refine List.filter_congr fun b _ => ?_
  rw [Bool.eq_iff_iff, admits_of_speaks h, decide_eq_true_iff]

theorem select_of_blank (h : ∀ t ∈ texts, allBlank t.toList = true) (bs : List Block) :
    c.select texts bs = bs := by
  have hsilent : ¬ Speaks texts := by
    rintro ⟨t, ht, hblank⟩
    rw [h t ht] at hblank
    contradiction
  rw [select_eq, List.filter_eq_self]
  exact fun b _ => admits_iff.2 fun hspeaks => absurd hspeaks hsilent

/-- **More texts keep what either list of texts keeps.** -/
theorem select_append (htexts : Speaks texts) (hlater : Speaks later) (bs : List Block) :
    c.select (texts ++ later) bs =
      bs.filter fun b => b ∈ c.select texts bs ∨ b ∈ c.select later bs := by
  rw [select_eq_filter (speaks_append_left htexts later)]
  refine List.filter_congr fun b hb => ?_
  rw [select_eq_filter htexts, select_eq_filter hlater, decide_eq_decide, asks_append]
  simp only [List.mem_filter, decide_eq_true_iff, and_iff_right hb]

theorem select_congr {texts' : List String} (h : Relation.ReflTransGen Rewording texts texts')
    (bs : List Block) : c.select texts' bs = c.select texts bs := by
  rw [select_eq, select_eq]
  exact List.filter_congr fun b _ => admits_congr (mem_terms_reworded h) b

theorem select_comm (c d : Criterion) (texts later : List String) (bs : List Block) :
    c.select texts (d.select later bs) = d.select later (c.select texts bs) := by
  simp only [select_eq, List.filter_filter, Bool.and_comm]

end Criterion

/-! ## The strictest test -/

theorem matchesTerm_of_codeMatches {b : Block} {term : List Char} (h : codeMatches b term = true) :
    matchesTerm b term = true := by
  rw [matchesTerm, h, Bool.true_or, Bool.true_or]

theorem matchesControl_of_codeMatches {b : Block} {term : List Char}
    (h : codeMatches b term = true) : matchesControl b term = true := by
  obtain ⟨code, hcode, heq⟩ := List.any_eq_true.1 h
  have hpart : contains term (lowered code) = true :=
    contains_iff.2 ⟨[], [], by rw [beq_iff_eq.1 heq, List.nil_append, List.append_nil]⟩
  rw [matchesControl, Bool.or_eq_true]
  exact Or.inl (List.any_eq_true.2 ⟨code, hcode, hpart⟩)

theorem select_codes_sublist {c : Criterion}
    (h : ∀ b term, codeMatches b term = true → c.test b term = true) (texts : List String)
    (bs : List Block) : (byCodes texts bs).Sublist (c.select texts bs) := by
  have hcodes : byCodes texts bs = Criterion.codes.select texts bs := rfl
  rw [hcodes, Criterion.select_eq, Criterion.select_eq]
  refine List.monotone_filter_right bs fun b hb => ?_
  rw [admits_iff] at hb ⊢
  intro hspeaks
  obtain ⟨t, ht, hblank, hcode⟩ := hb hspeaks
  exact ⟨t, ht, hblank, h b _ hcode⟩

/-! ## The main result -/

/-- **Selections nest and combine.**  What codes keep, terms and controls keep
    too.  For each of the three kinds a selection keeps the blocks that a text of
    it asks for, in their order, and without a text that is more than blank it
    keeps all blocks; the texts of two lists keep what the one or the other keeps;
    blank and repeated texts, their order, the case of their ASCII letters and the
    blanks around them change nothing; and two selections, of whatever kinds and
    by whatever texts, may be made in either order. -/
theorem selections_combine (texts later : List String) (bs : List Block) :
    (byCodes texts bs).Sublist (byTerms texts bs) ∧
    (byCodes texts bs).Sublist (byControls texts bs) ∧
    ∀ c : Criterion,
      (c.select texts bs).Sublist bs ∧
      (Speaks texts → c.select texts bs = bs.filter (Asks c.test texts ·)) ∧
      ((∀ t ∈ texts, allBlank t.toList = true) → c.select texts bs = bs) ∧
      (Speaks texts → Speaks later → c.select (texts ++ later) bs =
        bs.filter fun b => b ∈ c.select texts bs ∨ b ∈ c.select later bs) ∧
      (∀ texts', Relation.ReflTransGen Rewording texts texts' →
        c.select texts' bs = c.select texts bs) ∧
      ∀ d : Criterion, c.select texts (d.select later bs) = d.select later (c.select texts bs) := by
  refine ⟨select_codes_sublist (c := .terms) (fun _ _ => matchesTerm_of_codeMatches) texts bs,
    select_codes_sublist (c := .controls) (fun _ _ => matchesControl_of_codeMatches) texts bs,
    fun c => ⟨?_, fun h => c.select_eq_filter h bs, fun h => c.select_of_blank h bs,
      fun htexts hlater => c.select_append htexts hlater bs, fun _ h => c.select_congr h bs,
      fun d => c.select_comm d texts later bs⟩⟩
  rw [c.select_eq]
  exact List.filter_sublist

/-- A bucket and a role, with their control codes. -/
def codedBlocks : List Block :=
  [(Block.starting "main.tf" "aws_s3_bucket" "logs" 1).withControls ["CC6.8", "CC7.2"],
    (Block.starting "main.tf" "aws_iam_role" "admin" 5).withControls ["CC6.1", "CC6.3"]]

/-- A code keeps the role, and with the name of the bucket both blocks are kept;
    blanks, capitals and a second mention of the code make no difference. -/
theorem selections_combine_coded :
    Speaks ["cc6.1"] ∧ Speaks [" LOGS "] ∧ (∀ t ∈ ["", "\u2003"], allBlank t.toList = true) ∧
      Relation.ReflTransGen Rewording ["cc6.1"] ["", "cc6.1", "\tCC6.1"] ∧
      ["cc6.1"] ≠ ["", "cc6.1", "\tCC6.1"] ∧
      byTerms (["cc6.1"] ++ [" LOGS "]) codedBlocks = codedBlocks ∧
      byCodes ["", "cc6.1", "\tCC6.1"] codedBlocks = codedBlocks.drop 1 ∧
      byControls ["", "\u2003"] codedBlocks = codedBlocks := by
  have hcode : Speaks ["cc6.1"] := by decide
  have hname : Speaks [" LOGS "] := by decide
  have hblank : ∀ t ∈ ["", "\u2003"], allBlank t.toList = true := by decide
  have hwords : Relation.ReflTransGen Rewording ["cc6.1"] ["", "cc6.1", "\tCC6.1"] := by
    refine .tail (.tail (.tail (.tail (.refl) (.repeated List.mem_cons_self)) (.respelled ?_))
      (.reordered (.swap "cc6.1" "\tCC6.1" []))) (.blank _ rfl)
    have hrespell : Respells "cc6.1" "\tCC6.1" :=
      ⟨['\t'], "CC6.1".toList, [], by decide, by decide, by decide, by decide⟩
    have hkept : Respells "cc6.1" "cc6.1" :=
      ⟨[], "cc6.1".toList, [], by decide, by decide, by decide, by decide⟩
    exact .cons hrespell (.cons hkept .nil)
  obtain ⟨-, -, hlaws⟩ := selections_combine ["cc6.1"] [" LOGS "] codedBlocks
  obtain ⟨-, -, hsilent⟩ := selections_combine ["", "\u2003"] [] codedBlocks
  refine ⟨hcode, hname, hblank, hwords, by decide, ?_, ?_, ?_⟩
  · refine ((hlaws .terms).2.2.2.1 hcode hname).trans ?_
    decide +kernel
  · refine ((hlaws .codes).2.2.2.2.1 _ hwords).trans ?_
    decide +kernel
  · exact (hsilent .controls).2.2.1 hblank

end InfraEvidence.Selection
