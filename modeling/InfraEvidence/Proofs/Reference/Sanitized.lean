/-
  InfraEvidence — what sanitizing does to references.

  * `pieces_sanitized`: the parts of a sanitized text are its parts, with the
    characters of `external` for the references that are not known;
  * `sanitizeValue_eq_self_iff`: a value stays exactly if all of its references
    are known;
  * `sanitizeValue_sanitizeValue`: sanitizing once more for fewer known
    references;
  * `Replaced`, `Sanitized`: a value and a block with nothing but the
    references that are not known replaced;
  * `sanitize_exact`: sanitizing does this to every block, so that every
    reference left is one to a block of the collection, and doing it again
    changes nothing.
-/
import Mathlib.Data.List.Forall2
import InfraEvidence.Proofs.Reference.Division

namespace InfraEvidence

open Text

/-- The values of a block, in its settings and in its assignments. -/
def Block.values (b : Block) : List String := b.settings.values ++ b.assignments.map (·.2)

namespace Reference

/-! ## Texts in which no reference begins -/

theorem not_mem_of_isIdentStart {c : Char} (h : isIdentStart c = false) :
    c ∉ ['a', 'g', 'm'] := by
  have hall : ∀ d ∈ ['a', 'g', 'm'], isIdentStart d = true :=
    List.all_eq_true.1 (by decide)
  intro hc
  rw [hall c hc] at h
  exact Bool.noConfusion h

/-- Before a character that begins no reference it does not matter whether a
    word ends. -/
theorem pieces_congr {s : List Char} (h : ∀ c ∈ s.head?, c ∉ ['a', 'g', 'm']) (w w' : Bool) :
    pieces w s = pieces w' s := by
  cases s with
  | nil => rw [pieces, pieces]
  | cons c s =>
    have hnone := start?_cons_eq_none (h c rfl) s
    rw [pieces_plain (Or.inr hnone), pieces_plain (Or.inr hnone)]

theorem pieces_plain_append {t : List Char} {d : Char} (ht : ∀ c ∈ t ++ [d], c ∉ ['a', 'g', 'm'])
    (w : Bool) (s : List Char) :
    pieces w (t ++ d :: s) = (t ++ [d]).map .plain ++ pieces (isWord d) s := by
  induction t generalizing w with
  | nil => exact pieces_plain (Or.inr (start?_cons_eq_none (ht d (by simp)) s))
  | cons c t ih =>
    have hc := start?_cons_eq_none (ht c (by simp)) (t ++ d :: s)
    rw [List.cons_append, pieces_plain (Or.inr hc), ih fun x hx => ht x (List.mem_cons_of_mem _ hx)]
    rfl

theorem pieces_external (w : Bool) (s : List Char) :
    pieces w (external.toList ++ s) = external.toList.map .plain ++ pieces false s := by
  have hsplit : external.toList = "[EXTERNAL_REF".toList ++ [']'] := by decide
  have hbracket : isWord ']' = false := by decide
  rw [hsplit, List.append_assoc, List.singleton_append, pieces_plain_append (by simp), hbracket]

/-! ## Sanitized texts -/

/-- The parts of a part as it is written where only the references `known` are kept. -/
def Piece.kept (known : List String) : Piece → List Piece
  | plain c => [plain c]
  | reference text =>
    if known.contains (String.ofList text) then [reference text] else external.toList.map plain

variable {known : List String}

/-- After a reference the next character stays. -/
theorem head?_sanitized (s : List Char) :
    ((pieces true s).flatMap (Piece.sanitized known)).head? = s.head? := by
  cases s with
  | nil => rw [pieces]; rfl
  | cons c s => rw [pieces_plain (Or.inl rfl)]; rfl

/-- What a sanitized text begins with, the text began with, unless there is a
    bracket in it. -/
theorem prefix_of_prefix_sanitized {ps : List Piece} {ref : List Char} (hb : '[' ∉ ref)
    (h : ref <+: ps.flatMap (Piece.sanitized known)) : ref <+: joinPieces ps := by
  induction ps generalizing ref with
  | nil => exact h
  | cons p ps ih =>
    rw [joinPieces_cons]
    rw [List.flatMap_cons] at h
    -- a part that is kept is passed over on both sides
    have hkept : ∀ t, ref <+: t ++ ps.flatMap (Piece.sanitized known) →
        ref <+: t ++ joinPieces ps := by
      intro t ht
      rcases List.prefix_or_prefix_of_prefix ht (List.prefix_append t _) with hr | ⟨r, rfl⟩
      · exact hr.trans (List.prefix_append _ _)
      · rw [List.prefix_append_right_inj] at ht ⊢
        exact ih (fun hm => hb (List.mem_append_right _ hm)) ht
    cases p with
    | plain c => exact hkept [c] h
    | reference text =>
      rw [Piece.sanitized] at h
      split at h
      · exact hkept text h
      · cases ref with
        | nil => exact List.nil_prefix
        | cons c ref =>
          have hc : c = '[' := (List.cons_prefix_cons.1 h).1
          simp [hc] at hb

/-- **Where no reference began, none begins after sanitizing**: it would have
    to end before the first bracket, and stand in the text itself. -/
theorem start?_sanitized {c : Char} {s : List Char} (h : start? (c :: s) = none) (w : Bool) :
    start? (c :: (pieces w s).flatMap (Piece.sanitized known)) = none := by
  rw [Option.eq_none_iff_forall_not_mem]
  rintro ⟨ref, rest⟩ hstart
  obtain ⟨he, href, -⟩ := start?_eq_some_iff.1 hstart
  have hb : '[' ∉ ref := by
    intro hm
    rcases href.word_or_dot _ hm with h | h <;> exact absurd h (by decide)
  have hsanitized : ref <+: (Piece.plain c :: pieces w s).flatMap (Piece.sanitized known) :=
    ⟨rest, he.symm⟩
  have htext := prefix_of_prefix_sanitized hb hsanitized
  rw [joinPieces_cons, joinPieces_pieces] at htext
  obtain ⟨rest', he'⟩ := htext
  refine start?_ne_none href rest' ?_
  rw [he']
  exact h

/-- **The parts of a sanitized text**: no reference is lost but the unknown
    ones, and none is made. -/
theorem pieces_sanitized (w : Bool) (s : List Char) :
    pieces w ((pieces w s).flatMap (Piece.sanitized known)) =
      (pieces w s).flatMap (Piece.kept known) := by
  fun_induction pieces w s with
  | case1 => simp [pieces]
  | case2 c s ih =>
    rw [List.flatMap_cons, List.flatMap_cons, Piece.sanitized, List.singleton_append,
      pieces_plain (Or.inl rfl), ih]
    rfl
  | case3 w c s hw ref rest h _ ih =>
    obtain rfl : w = false := by simpa using hw
    obtain ⟨-, href, hrest⟩ := start?_eq_some_iff.1 h
    have hhead : ∀ c ∈ ((pieces true rest).flatMap (Piece.sanitized known)).head?,
        isIdentRest c = false := by
      rw [head?_sanitized]
      exact hrest
    rw [List.flatMap_cons, List.flatMap_cons, Piece.sanitized, Piece.kept]
    split
    · rw [pieces_reference (start?_eq_some_iff.2 ⟨rfl, href, hhead⟩), ih]
      rfl
    · -- what follows begins no reference, with or without a word before it
      have hfirst : ∀ c ∈ ((pieces true rest).flatMap (Piece.sanitized known)).head?,
          c ∉ ['a', 'g', 'm'] := fun c hc =>
        not_mem_of_isIdentStart (isIdentStart_eq_false (hhead c hc))
      rw [pieces_external, pieces_congr hfirst false true, ih]
  | case4 w c s hw h ih =>
    rw [List.flatMap_cons, List.flatMap_cons, Piece.sanitized, List.singleton_append,
      pieces_plain (Or.inr (start?_sanitized h _)), ih]
    rfl

/-! ## Sanitized values -/

theorem pieces_sanitizeValue (v : String) :
    pieces false (sanitizeValue known v).toList =
      (pieces false v.toList).flatMap (Piece.kept known) := by
  rw [sanitizeValue, String.toList_ofList, pieces_sanitized]

theorem mem_kept {p : Piece} {ref : List Char} (h : .reference ref ∈ p.kept known) :
    p = .reference ref ∧ String.ofList ref ∈ known := by
  cases p with
  | plain c => simp [Piece.kept] at h
  | reference text =>
    rw [Piece.kept] at h
    split at h
    · next hk =>
      obtain rfl : ref = text := by simpa using h
      exact ⟨rfl, List.contains_iff_mem.1 hk⟩
    · simp at h

/-- **Every reference left in a value is known.** -/
theorem mem_of_mem_pieces_sanitizeValue {v : String} {ref : List Char}
    (h : .reference ref ∈ pieces false (sanitizeValue known v).toList) :
    String.ofList ref ∈ known := by
  rw [pieces_sanitizeValue] at h
  obtain ⟨p, -, href⟩ := List.mem_flatMap.1 h
  exact (mem_kept href).2

theorem sanitizeValue_eq_self_iff {v : String} :
    sanitizeValue known v = v ↔
      ∀ ref, .reference ref ∈ pieces false v.toList → String.ofList ref ∈ known := by
  constructor
  · intro h ref href
    rw [← h] at href
    exact mem_of_mem_pieces_sanitizeValue href
  · intro h
    have hmap : (pieces false v.toList).map (Piece.sanitized known) =
        (pieces false v.toList).map Piece.text := by
      refine List.map_congr_left fun p hp => ?_
      cases p with
      | plain c => rfl
      | reference ref =>
        rw [Piece.sanitized, if_pos (List.contains_iff_mem.2 (h ref hp))]
        rfl
    rw [sanitizeValue, List.flatMap_def, hmap, ← List.flatMap_def, ← joinPieces, joinPieces_pieces,
      String.ofList_toList]

theorem flatMap_sanitized_kept {known' : List String} (h : known' ⊆ known) (p : Piece) :
    (p.kept known).flatMap (Piece.sanitized known') = p.sanitized known' := by
  cases p with
  | plain c => rfl
  | reference ref =>
    rw [Piece.kept]
    split
    · exact List.append_nil _
    · next hk =>
      have hk' : ¬ known'.contains (String.ofList ref) = true := fun hc =>
        hk (List.contains_iff_mem.2 (h (List.contains_iff_mem.1 hc)))
      rw [Piece.sanitized, if_neg hk', List.flatMap_map]
      exact List.flatMap_singleton' _

/-- **Sanitizing once more, for fewer known references**, is sanitizing for them. -/
theorem sanitizeValue_sanitizeValue {known' : List String} (h : known' ⊆ known) (v : String) :
    sanitizeValue known' (sanitizeValue known v) = sanitizeValue known' v := by
  rw [sanitizeValue, pieces_sanitizeValue, List.flatMap_assoc]
  simp only [flatMap_sanitized_kept h]
  rfl

/-- The value `v'` is `v` with exactly its references that are not known
    replaced; so it is `v` if there are none. -/
def Replaced (known : List String) (v v' : String) : Prop :=
  ∃ ps, joinPieces ps = v.toList ∧ Division [] ps ∧
    v'.toList = ps.flatMap (Piece.sanitized known) ∧
    ((∀ ref, .reference ref ∈ ps → String.ofList ref ∈ known) → v' = v)

theorem replaced_sanitizeValue (v : String) : Replaced known v (sanitizeValue known v) :=
  ⟨pieces false v.toList, joinPieces_pieces _ _, division_pieces rfl _, String.toList_ofList,
    sanitizeValue_eq_self_iff.2⟩

/-! ## Sanitized blocks -/

/-- The block `b'` is `b` with exactly the references of its values that are
    not known replaced. -/
structure Sanitized (known : List String) (b b' : Block) : Prop where
  frame : b' = { b with settings := b'.settings, assignments := b'.assignments }
  settings : List.Forall₂ (fun e e' => e'.1 = e.1 ∧ Replaced known e.2 e'.2)
    b.settings.entries b'.settings.entries
  assignments : List.Forall₂ (fun e e' => e'.1 = e.1 ∧ Replaced known e.2 e'.2)
    b.assignments b'.assignments

theorem sanitized_sanitizeBlock (b : Block) : Sanitized known b (sanitizeBlock known b) where
  frame := rfl
  settings := List.forall₂_map_right_iff.2
    (List.forall₂_same.2 fun _ _ => ⟨rfl, replaced_sanitizeValue _⟩)
  assignments := List.forall₂_map_right_iff.2
    (List.forall₂_same.2 fun _ _ => ⟨rfl, replaced_sanitizeValue _⟩)

theorem mem_values_sanitizeBlock {b : Block} {v' : String}
    (h : v' ∈ (sanitizeBlock known b).values) : ∃ v, v' = sanitizeValue known v := by
  simp only [Block.values, Dict.values, sanitizeBlock, Dict.mapValues, List.map_map,
    List.mem_append, List.mem_map, Function.comp_apply] at h
  rcases h with ⟨e, -, rfl⟩ | ⟨e, -, rfl⟩
  · exact ⟨e.2, rfl⟩
  · exact ⟨e.2, rfl⟩

theorem sanitizeBlock_sanitizeBlock {known' : List String} (h : known' ⊆ known) (b : Block) :
    sanitizeBlock known' (sanitizeBlock known b) = sanitizeBlock known' b := by
  have hvalue : sanitizeValue known' ∘ sanitizeValue known = sanitizeValue known' :=
    funext (sanitizeValue_sanitizeValue h)
  simp only [sanitizeBlock, Dict.mapValues_mapValues, hvalue, List.map_map, Function.comp_def,
    sanitizeValue_sanitizeValue h]

theorem targets_sanitize (bs : List Block) : targets (sanitize bs) = targets bs := by
  rw [targets, sanitize, List.map_map]
  rfl

/-- **What sanitizing does.**  Every reference in a value refers to a block of
    the collection; in every block exactly the other references of its values
    are replaced, and nothing else changes; and doing it again changes nothing. -/
theorem sanitize_exact (bs : List Block) :
    (∀ b ∈ sanitize bs, ∀ v ∈ b.values, ∀ ps, joinPieces ps = v.toList → Division [] ps →
      ∀ ref, .reference ref ∈ ps → String.ofList ref ∈ targets (sanitize bs)) ∧
    List.Forall₂ (Sanitized (targets bs)) bs (sanitize bs) ∧
    sanitize (sanitize bs) = sanitize bs := by
  refine ⟨?_, ?_, ?_⟩
  · intro b hb v hv ps hjoin hps ref href
    obtain ⟨b, -, rfl⟩ := List.mem_map.1 hb
    obtain ⟨v, rfl⟩ := mem_values_sanitizeBlock hv
    rw [← division_iff.1 ⟨hjoin, hps⟩] at href
    rw [targets_sanitize]
    exact mem_of_mem_pieces_sanitizeValue href
  · exact List.forall₂_map_right_iff.2 (List.forall₂_same.2 fun b _ => sanitized_sanitizeBlock b)
  · have hagain : sanitizeBlock (targets bs) ∘ sanitizeBlock (targets bs) =
        sanitizeBlock (targets bs) := funext (sanitizeBlock_sanitizeBlock (List.Subset.refl _))
    rw [sanitize, targets_sanitize, sanitize, List.map_map, hagain]

example : sanitizeValue ["aws_lb.front"] "[aws_lb.front.id, module.edge.id]" =
    "[aws_lb.front.id, [EXTERNAL_REF].id]" := by
  decide +kernel

end Reference

end InfraEvidence
