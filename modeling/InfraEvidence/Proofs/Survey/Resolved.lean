/-
  InfraEvidence — the references in the outcome of a survey.

  A survey for security controls that reads only some files sanitizes what it
  finds, and selects from it afterwards.

  * `Reference.Cites`: a reference occurs in a value;
  * `Reference.cites_sanitizeValue`: sanitizing leaves those that are known;
  * `Reference.Resolved`: the settings of some blocks refer only to each other;
  * `Survey.keeps`: the selection by terms and by codes, as one test of a block;
  * `Survey.resolved_iff`: the outcome is resolved exactly if no block that is
    kept refers to a found one that is not;
  * `Survey.selection_unresolves`: a selection can leave a reference behind.
-/
import InfraEvidence.Proofs.Reference.Sanitized
import InfraEvidence.Proofs.Selection.Keep
import InfraEvidence.Proofs.Survey.Found

namespace InfraEvidence

open Text

/-! ## References in values -/

namespace Reference

/-- The reference occurs in the value, where it is taken apart from left to right. -/
def Cites (value : String) (ref : List Char) : Prop :=
  ∃ ps, joinPieces ps = value.toList ∧ Division [] ps ∧ .reference ref ∈ ps

theorem cites_iff {value : String} {ref : List Char} :
    Cites value ref ↔ .reference ref ∈ pieces false value.toList := by
  constructor
  · rintro ⟨ps, hjoin, hps, href⟩
    rwa [division_iff.1 ⟨hjoin, hps⟩]
  · intro href
    obtain ⟨hjoin, hps⟩ := division_iff.2 (rfl : pieces false value.toList = _)
    exact ⟨_, hjoin, hps, href⟩

/-- **Sanitizing leaves exactly the known references.** -/
theorem cites_sanitizeValue {known : List String} {value : String} {ref : List Char} :
    Cites (sanitizeValue known value) ref ↔ Cites value ref ∧ String.ofList ref ∈ known := by
  rw [cites_iff, cites_iff, pieces_sanitizeValue, List.mem_flatMap]
  constructor
  · rintro ⟨p, hp, href⟩
    obtain ⟨rfl, hknown⟩ := mem_kept href
    exact ⟨hp, hknown⟩
  · rintro ⟨hp, hknown⟩
    refine ⟨_, hp, ?_⟩
    rw [Piece.kept, if_pos (List.contains_iff_mem.2 hknown)]
    exact List.mem_singleton_self _

/-- Every reference in a setting of one of the blocks is the name of one of them. -/
def Resolved (bs : List Block) : Prop :=
  ∀ b ∈ bs, ∀ v ∈ b.settings.values, ∀ ref, Cites v ref → String.ofList ref ∈ targets bs

theorem values_sanitizeBlock (known : List String) (b : Block) :
    (sanitizeBlock known b).settings.values = b.settings.values.map (sanitizeValue known) := by
  simp [sanitizeBlock, Dict.values, Dict.mapValues]

end Reference

/-! ## The outcome of a survey -/

namespace Survey

open Reference

/-- The terms of the request keep the block, and its codes do. -/
def keeps (r : Request) (b : Block) : Bool :=
  Selection.admits Selection.matchesControl r.terms b &&
    Selection.admits Selection.codeMatches r.codes b

/-- The selection reads no value, so that it may be thought of as made before
    the blocks are sanitized. -/
theorem keeps_sanitizeBlock (r : Request) (known : List String) (b : Block) :
    keeps r (sanitizeBlock known b) = keeps r b := rfl

theorem applyMode_sanitized {r : Request} (hmode : r.mode = .securityControls)
    (hfiles : r.files ≠ []) (bs : List Block) :
    applyMode r bs = (bs.filter (keeps r)).map (sanitizeBlock (targets bs)) := by
  have hsome : r.files.isEmpty = false := by simpa using hfiles
  have htest : (fun b => keeps r b) ∘ sanitizeBlock (targets bs) = keeps r :=
    funext (keeps_sanitizeBlock r _)
  simp only [applyMode, keepByMode, hmode, hsome, Selection.byCodes, Selection.byControls,
    Selection.keep_eq_filter, Bool.false_eq_true, if_false, List.filter_filter]
  rw [← htest, ← List.filter_map, sanitize]
  refine List.filter_congr fun b _ => ?_
  rw [keeps, Bool.and_comm]

/-- **What a survey that reads only some files leaves unresolved.**  Its outcome
    is what the request keeps of the blocks found, sanitized for all of them.
    Every reference left is one to a block found; and all of them are to blocks
    of the outcome exactly if no block that is kept refers to one that was found
    and is not kept, as when there is neither a term nor a code. -/
theorem resolved_iff {fs : FileSystem} {s : Settings} {r : Request} {roots : List String}
    {out : Outcome} (hmode : r.mode = .securityControls) (hfiles : r.files ≠ [])
    (h : scanPaths fs s r roots = .ok out) :
    ∃ types, AllowList.parse? r.types = .ok types ∧
      let all := found fs ⟨.resource, types⟩ out.files
      out.blocks = (all.filter (keeps r)).map (sanitizeBlock (targets all)) ∧
      (∀ b ∈ out.blocks, ∀ v ∈ b.settings.values, ∀ ref, Cites v ref →
        String.ofList ref ∈ targets all) ∧
      (Resolved out.blocks ↔
        ∀ b ∈ all, keeps r b = true → ∀ v ∈ b.settings.values, ∀ ref, Cites v ref →
          String.ofList ref ∈ targets all → String.ofList ref ∈ targets (all.filter (keeps r))) ∧
      (Selection.terms r.terms = [] → Selection.terms r.codes = [] → Resolved out.blocks) := by
  obtain ⟨types, htypes, hblocks⟩ := scanPaths_eq_ok h
  rw [hmode, applyMode_sanitized hmode hfiles] at hblocks
  refine ⟨types, htypes, ?_⟩
  intro all
  have hout : out.blocks = (all.filter (keeps r)).map (sanitizeBlock (targets all)) := hblocks
  -- the values of the outcome are sanitized values of blocks that are kept
  have hvalues : ∀ P : String → Prop, (∀ b ∈ out.blocks, ∀ v ∈ b.settings.values, P v) ↔
      ∀ b ∈ all, keeps r b = true → ∀ v ∈ b.settings.values, P (sanitizeValue (targets all) v) := by
    intro P
    simp only [hout, List.forall_mem_map, List.mem_filter, and_imp, values_sanitizeBlock]
  have htargets : targets out.blocks = targets (all.filter (keeps r)) := by
    rw [hout, targets, List.map_map]
    rfl
  have hresolved : Resolved out.blocks ↔
      ∀ b ∈ all, keeps r b = true → ∀ v ∈ b.settings.values, ∀ ref, Cites v ref →
        String.ofList ref ∈ targets all → String.ofList ref ∈ targets (all.filter (keeps r)) := by
    rw [Resolved, hvalues, htargets]
    simp only [cites_sanitizeValue, and_imp]
  refine ⟨hout, ?_, hresolved, fun hterms hcodes => hresolved.2 ?_⟩
  · rw [hvalues]
    intro b _ _ v _ ref href
    exact (cites_sanitizeValue.1 href).2
  · have hall : all.filter (keeps r) = all := by
      refine List.filter_eq_self.2 fun b _ => ?_
      rw [keeps, Selection.admits_of_terms_eq_nil hterms, Selection.admits_of_terms_eq_nil hcodes]
      rfl
    intro b _ _ v _ ref _ hknown
    rwa [hall]

/-- A file with a network and a group in it. -/
def networkFile : FileSystem where
  root := .folder [("network.tf", .file (encode ("resource \"aws_vpc\" \"main\" \x7b\n\x7d\n" ++
    "resource \"aws_security_group\" \"web\" \x7b\n  vpc_id = aws_vpc.main.id\n\x7d\n").toList))]
  working := []

/-- Without terms the network is kept, and the reference to it too. -/
theorem resolved_network :
    let r : Request := { terms := [" "], files := ["network.tf"] }
    r.mode = .securityControls ∧ r.files ≠ [] ∧
      ∃ out, scanPaths networkFile {} r ["network.tf"] = .ok out ∧ Resolved out.blocks ∧
        out.blocks.map (·.assignments) = [[], [("vpc_id", "aws_vpc.main.id")]] := by
  intro r
  have hfiles : r.files ≠ [] := List.cons_ne_nil _ _
  obtain ⟨out, hout, hassigned⟩ : ∃ out, scanPaths networkFile {} r ["network.tf"] = .ok out ∧
      out.blocks.map (·.assignments) = [[], [("vpc_id", "aws_vpc.main.id")]] :=
    exists_eq_ok (by decide +kernel)
  obtain ⟨types, -, -, -, -, hresolved⟩ := resolved_iff rfl hfiles hout
  exact ⟨rfl, hfiles, out, hout, hresolved (by decide +kernel) rfl, hassigned⟩

/-- **A selection leaves a reference behind**: both blocks are found, so that the
    reference is kept, and then only the group is. -/
theorem selection_unresolves :
    let r : Request := { terms := ["access_control"], files := ["network.tf"] }
    r.mode = .securityControls ∧ r.files ≠ [] ∧
      ∃ out, scanPaths networkFile {} r ["network.tf"] = .ok out ∧ ¬ Resolved out.blocks := by
  intro r
  refine ⟨rfl, List.cons_ne_nil _ _, ?_⟩
  obtain ⟨out, hout, hblocks⟩ : ∃ out, scanPaths networkFile {} r ["network.tf"] = .ok out ∧
      out.blocks.map (fun b => (b.canonicalReference, b.settings.values)) =
        [("aws_security_group.web", ["aws_vpc.main.id"])] := exists_eq_ok (by decide +kernel)
  refine ⟨out, hout, fun hresolved => ?_⟩
  obtain ⟨b, hall, hb⟩ := List.map_eq_singleton_iff.1 hblocks
  obtain ⟨hname, hvalues⟩ := Prod.mk.inj hb
  have hcites : Cites "aws_vpc.main.id" "aws_vpc.main".toList := cites_iff.2 (by decide +kernel)
  have hmem := hresolved b (by simp [hall]) "aws_vpc.main.id" (by simp [hvalues]) _ hcites
  rw [hall, targets, List.map_singleton, hname] at hmem
  exact absurd hmem (by decide)

end Survey

end InfraEvidence
