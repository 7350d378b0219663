/-
  InfraEvidence — sanitizing a collection and what is taken from it.

  * `ValueBlind`: the predicates on blocks that read no value;
  * `Rewritten`: a text made of some parts, of which any reference may be
    replaced; `Intact`: such a text in which one reference still stands;
  * `intact_sanitizeValue_iff`: sanitizing leaves a reference standing exactly
    if it is known;
  * `rearranged`: a list in another order;
  * `sanitize_subcollection`: sanitizing before a selection adds nothing to
    sanitizing after it, the order of the blocks does not matter, and more
    blocks leave more references standing.
-/
import Mathlib.Data.List.FinRange
import InfraEvidence.Proofs.Reference.Sanitized

namespace InfraEvidence

open Text

/-! ## Predicates that read no value -/

/-- The block with all of its values emptied. -/
def Block.withoutValues (b : Block) : Block :=
  { b with
    settings := b.settings.mapValues fun _ => ""
    assignments := b.assignments.map fun p => (p.1, "") }

/-- Blocks that differ only in their values are the same to the predicate. -/
def ValueBlind (p : Block → Bool) : Prop :=
  ∀ b b' : Block, b.withoutValues = b'.withoutValues → p b = p b'

/-- Where a block has a value: the setting of a key, or an assignment by its number. -/
inductive Place where
  | setting (key : String)
  | assignment (n : Nat)

/-- The value that a block has at a place. -/
def Block.valueAt? (b : Block) : Place → Option String
  | .setting key => b.settings.get? key
  | .assignment n => b.assignments[n]?.map (·.2)

/-! ## Lists in another order -/

section
variable {α β : Type} {n : Nat}

/-- The list in the order that `σ` puts it. -/
def rearranged (l : List α) (h : l.length = n) (σ : Equiv.Perm (Fin n)) : List α :=
  List.ofFn fun i => l.get ((σ i).cast h.symm)

theorem mem_rearranged {l : List α} {h : l.length = n} {σ : Equiv.Perm (Fin n)} {x : α} :
    x ∈ rearranged l h σ ↔ x ∈ l := by
  subst h
  have hperm : (rearranged l rfl σ).Perm (List.ofFn l.get) := σ.ofFn_comp_perm l.get
  rw [hperm.mem_iff, List.ofFn_get]

theorem map_rearranged (f : α → β) (l : List α) (h : l.length = n) (σ : Equiv.Perm (Fin n)) :
    (rearranged l h σ).map f = rearranged (l.map f) (by rw [List.length_map, h]) σ := by
  rw [rearranged, rearranged, List.map_ofFn]
  congr 1
  funext i
  simp

end

namespace Reference

variable {known : List String}

/-! ## References that are still there -/

/-- The text of some parts, with any of their references replaced. -/
inductive Rewritten : List Piece → List Char → Prop
  | nil : Rewritten [] []
  | kept {p ps s} : Rewritten ps s → Rewritten (p :: ps) (p.text ++ s)
  | replaced {ref ps s} : Rewritten ps s →
      Rewritten (.reference ref :: ps) (external.toList ++ s)

/-- The reference `ref` of the value `v`, between the parts `front` and `rest`,
    still stands in `w`, between what became of them. -/
structure Intact (v w : String) (front : List Piece) (ref : List Char) (rest : List Piece) :
    Prop where
  parts : pieces false v.toList = front ++ .reference ref :: rest
  stands : ∃ s t, Rewritten front s ∧ Rewritten rest t ∧ w.toList = s ++ ref ++ t

theorem rewritten_sanitized (ps : List Piece) :
    Rewritten ps (ps.flatMap (Piece.sanitized known)) := by
  induction ps with
  | nil => exact .nil
  | cons p ps ih =>
    rw [List.flatMap_cons]
    cases p with
    | plain c => exact .kept ih
    | reference ref =>
      rw [Piece.sanitized]
      split
      · exact .kept ih
      · exact .replaced ih

theorem Division.isReference {front : List Char} {ps : List Piece} (h : Division front ps) :
    ∀ ref, .reference ref ∈ ps → IsReference ref := by
  induction h with
  | nil => simp
  | reference hm _ ih =>
    intro r hr
    rcases List.mem_cons.1 hr with he | hr
    · cases he
      exact hm.isReference
    · exact ih r hr
  | plain _ _ ih =>
    intro r hr
    rcases List.mem_cons.1 hr with he | hr
    · cases he
    · exact ih r hr

theorem external_append_ne {ref : List Char} (h : IsReference ref) (s t : List Char) :
    external.toList ++ s ≠ ref ++ t := by
  obtain ⟨c, cs, rfl, hc⟩ := h.head
  intro he
  have hhead : '[' = c := (List.cons.inj he).1
  subst hhead
  exact absurd hc (by decide)

/-- A reference that stands behind a rewritten text is known: going from left
    to right, the first character of a part tells whether it was replaced. -/
theorem mem_of_rewritten {front rest : List Piece} {ref s t : List Char}
    (hs : Rewritten front s) (href : IsReference ref)
    (hfront : ∀ r, .reference r ∈ front → IsReference r)
    (h : (front ++ .reference ref :: rest).flatMap (Piece.sanitized known) = s ++ ref ++ t) :
    String.ofList ref ∈ known := by
  induction hs with
  | nil =>
    rw [List.nil_append, List.flatMap_cons, Piece.sanitized] at h
    split at h
    · next hk => exact List.contains_iff_mem.1 hk
    · exact absurd h (external_append_ne href _ _)
  | @kept p ps s _ ih =>
    have hps := fun r hr => hfront r (List.mem_cons_of_mem _ hr)
    rw [List.cons_append, List.flatMap_cons, List.append_assoc, List.append_assoc,
      ← List.append_assoc s] at h
    cases p with
    | plain c => exact ih hps (List.append_cancel_left h)
    | reference r =>
      rw [Piece.sanitized] at h
      split at h
      · exact ih hps (List.append_cancel_left h)
      · exact absurd h (external_append_ne (hfront r List.mem_cons_self) _ _)
  | @replaced r ps s _ ih =>
    have hps := fun r hr => hfront r (List.mem_cons_of_mem _ hr)
    rw [List.cons_append, List.flatMap_cons, Piece.sanitized, List.append_assoc, List.append_assoc,
      ← List.append_assoc s] at h
    split at h
    · exact absurd h.symm (external_append_ne (hfront r List.mem_cons_self) _ _)
    · exact ih hps (List.append_cancel_left h)

/-- **Sanitizing leaves a reference standing exactly if it is known.** -/
theorem intact_sanitizeValue_iff {v : String} {front rest : List Piece} {ref : List Char} :
    Intact v (sanitizeValue known v) front ref rest ↔
      pieces false v.toList = front ++ .reference ref :: rest ∧ String.ofList ref ∈ known := by
  constructor
  · rintro ⟨hparts, s, t, hs, -, hw⟩
    have hdivision : Division [] (pieces false v.toList) := division_pieces rfl _
    rw [hparts] at hdivision
    have hall := hdivision.isReference
    rw [sanitizeValue, String.toList_ofList, hparts] at hw
    refine ⟨hparts, mem_of_rewritten hs (hall ref (by simp)) (fun r hr => hall r ?_) hw⟩
    exact List.mem_append_left _ hr
  · rintro ⟨hparts, href⟩
    have hrewritten : ∀ ps, Rewritten ps (ps.flatMap (Piece.sanitized known)) := rewritten_sanitized
    refine ⟨hparts, _, _, hrewritten front, hrewritten rest, ?_⟩
    rw [sanitizeValue, String.toList_ofList, hparts, List.flatMap_append, List.flatMap_cons,
      Piece.sanitized, if_pos (List.contains_iff_mem.2 href), List.append_assoc]

/-! ## Collections -/

theorem withoutValues_sanitizeBlock (b : Block) :
    (sanitizeBlock known b).withoutValues = b.withoutValues := by
  simp [Block.withoutValues, sanitizeBlock, Dict.mapValues_mapValues, Function.comp_def]

theorem valueAt?_sanitizeBlock (b : Block) (place : Place) :
    (sanitizeBlock known b).valueAt? place = (b.valueAt? place).map (sanitizeValue known) := by
  cases place with
  | setting key => exact Dict.get?_mapValues _ _ _
  | assignment n =>
    simp only [Block.valueAt?, sanitizeBlock, List.getElem?_map, Option.map_map]
    rfl

theorem targets_map_sanitizeBlock (bs : List Block) :
    targets (bs.map (sanitizeBlock known)) = targets bs := by
  rw [targets, List.map_map]
  rfl

/-- What was sanitized for more references may as well not have been. -/
theorem sanitize_map_sanitizeBlock {bs : List Block} (h : targets bs ⊆ known) :
    sanitize (bs.map (sanitizeBlock known)) = sanitize bs := by
  rw [sanitize, targets_map_sanitizeBlock, sanitize, List.map_map]
  exact List.map_congr_left fun b _ => sanitizeBlock_sanitizeBlock h b

theorem filter_map_sanitizeBlock {p : Block → Bool} (hp : ValueBlind p) (bs : List Block) :
    (bs.map (sanitizeBlock known)).filter p = (bs.filter p).map (sanitizeBlock known) := by
  have hblind : p ∘ sanitizeBlock known = p :=
    funext fun b => hp _ _ (withoutValues_sanitizeBlock b)
  rw [List.filter_map, hblind]

/-- The order of the known references does not matter, nor how often one is listed. -/
theorem sanitizeBlock_congr {known' : List String} (h : ∀ ref, ref ∈ known ↔ ref ∈ known') :
    sanitizeBlock known = sanitizeBlock known' := by
  have hpiece : Piece.sanitized known = Piece.sanitized known' := by
    funext p
    cases p with
    | plain c => rfl
    | reference text => simp only [Piece.sanitized, List.contains_iff_mem, h]
  have hvalue : sanitizeValue known = sanitizeValue known' := by
    funext v
    rw [sanitizeValue, sanitizeValue, hpiece]
  funext b
  rw [sanitizeBlock, sanitizeBlock, hvalue]

theorem length_sanitize (bs : List Block) : (sanitize bs).length = bs.length := List.length_map _

theorem mem_targets_rearranged {bs : List Block} {σ : Equiv.Perm (Fin bs.length)} {ref : String} :
    ref ∈ targets (rearranged bs rfl σ) ↔ ref ∈ targets bs := by
  simp only [targets, List.mem_map, mem_rearranged]

/-- **Sanitizing and taking blocks from a collection.**  For a selection that
    reads no value it is enough to sanitize what was selected; the blocks may
    come in any order; and a reference that stands in a value after sanitizing
    a collection stands there after sanitizing any collection around it. -/
theorem sanitize_subcollection (bs : List Block) :
    (∀ p, ValueBlind p → sanitize ((sanitize bs).filter p) = sanitize (bs.filter p)) ∧
    (∀ σ : Equiv.Perm (Fin bs.length),
      sanitize (rearranged bs rfl σ) = rearranged (sanitize bs) (length_sanitize bs) σ) ∧
    ∀ larger, bs ⊆ larger → ∀ (i j : Nat) (b : Block), bs[i]? = some b → larger[j]? = some b →
      ∃ x y, (sanitize bs)[i]? = some x ∧ (sanitize larger)[j]? = some y ∧
        ∀ place v, b.valueAt? place = some v →
          ∃ w w', x.valueAt? place = some w ∧ y.valueAt? place = some w' ∧
            ∀ front ref rest, Intact v w front ref rest → Intact v w' front ref rest := by
  refine ⟨fun p hp => ?_, fun σ => ?_, fun larger hsub i j b hi hj => ?_⟩
  · have hsanitize : sanitize bs = bs.map (sanitizeBlock (targets bs)) := rfl
    rw [hsanitize, filter_map_sanitizeBlock hp]
    exact sanitize_map_sanitizeBlock (List.map_subset _ (List.filter_subset_self ..))
  · rw [sanitize, sanitizeBlock_congr fun ref => mem_targets_rearranged, map_rearranged]
    rfl
  · refine ⟨sanitizeBlock (targets bs) b, sanitizeBlock (targets larger) b, ?_, ?_, ?_⟩
    · rw [sanitize, List.getElem?_map, hi, Option.map_some]
    · rw [sanitize, List.getElem?_map, hj, Option.map_some]
    · intro place v hv
      refine ⟨sanitizeValue (targets bs) v, sanitizeValue (targets larger) v, ?_, ?_, ?_⟩
      · rw [valueAt?_sanitizeBlock, hv, Option.map_some]
      · rw [valueAt?_sanitizeBlock, hv, Option.map_some]
      · intro front ref rest hintact
        obtain ⟨hparts, href⟩ := intact_sanitizeValue_iff.1 hintact
        exact intact_sanitizeValue_iff.2 ⟨hparts, List.map_subset _ hsub href⟩

/-- Of a bucket and a role, the role; and the same two beside the network that
    the role refers to as well. -/
theorem sanitize_subcollection_role :
    let bucket := Block.starting "main.tf" "aws_s3_bucket" "logs" 1
    let role := (Block.starting "main.tf" "aws_iam_role" "reader" 4).set "scope"
      "aws_s3_bucket.logs aws_vpc.main"
    let network := Block.starting "main.tf" "aws_vpc" "main" 9
    let isRole : Block → Bool := fun b => b.type == "aws_iam_role"
    let ref := "aws_s3_bucket.logs".toList
    let rest := (pieces true " aws_vpc.main".toList)
    (ValueBlind isRole ∧
      sanitize ((sanitize [bucket, role]).filter isRole) = sanitize ([bucket, role].filter isRole)) ∧
    sanitize (rearranged [bucket, role] rfl (Equiv.swap 0 1)) =
      rearranged (sanitize [bucket, role]) (length_sanitize _) (Equiv.swap 0 1) ∧
    [bucket, role] ⊆ [role, network, bucket] ∧
    Intact "aws_s3_bucket.logs aws_vpc.main" "aws_s3_bucket.logs [EXTERNAL_REF]" [] ref rest ∧
    ∃ w', ((sanitize [role, network, bucket])[0]?.bind (·.valueAt? (.setting "scope"))) = some w' ∧
      Intact "aws_s3_bucket.logs aws_vpc.main" w' [] ref rest := by
  intro bucket role network isRole ref rest
  have hblind : ValueBlind isRole := fun b b' h => by
    have htype : b.withoutValues.type = b'.withoutValues.type := congrArg Block.type h
    exact congrArg (· == "aws_iam_role") htype
  have hsub : [bucket, role] ⊆ [role, network, bucket] :=
    List.cons_subset.2 ⟨by simp, List.cons_subset.2 ⟨by simp, List.nil_subset _⟩⟩
  have hvalue : sanitizeValue (targets [bucket, role]) "aws_s3_bucket.logs aws_vpc.main" =
      "aws_s3_bucket.logs [EXTERNAL_REF]" := by decide +kernel
  have hintact : Intact "aws_s3_bucket.logs aws_vpc.main" "aws_s3_bucket.logs [EXTERNAL_REF]"
      [] ref rest := by
    rw [← hvalue]
    exact intact_sanitizeValue_iff.2 ⟨by decide +kernel, by decide +kernel⟩
  have hrole : role.valueAt? (.setting "scope") = some "aws_s3_bucket.logs aws_vpc.main" := by
    decide +kernel
  obtain ⟨hselect, horder, hlarger⟩ := sanitize_subcollection [bucket, role]
  refine ⟨⟨hblind, hselect isRole hblind⟩, horder _, hsub, hintact, ?_⟩
  obtain ⟨x, y, hx, hy, hkept⟩ := hlarger _ hsub 1 0 role rfl rfl
  obtain ⟨w, w', hw, hw', hstays⟩ := hkept _ _ hrole
  have hwas : (sanitize [bucket, role])[1]?.bind (·.valueAt? (.setting "scope")) =
      some "aws_s3_bucket.logs [EXTERNAL_REF]" := by decide +kernel
  rw [hx, Option.bind_some, hw, Option.some.injEq] at hwas
  rw [hy, Option.bind_some]
  exact ⟨w', hw', hstays _ _ _ (hwas ▸ hintact)⟩

end Reference

end InfraEvidence
