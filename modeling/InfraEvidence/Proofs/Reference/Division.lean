/-
  InfraEvidence — the references in a text.

  * `IsReference`: the texts that are references;
  * `start?_eq_some_iff`: the reference that a text begins with is the longest
    one that it begins with;
  * `Matches`: a reference stands between two texts;
  * `Division`: a text taken apart from left to right, with a reference
    wherever one matches;
  * `division_iff`: the parts of a text are its only division.
-/
import InfraEvidence.Proofs.Block.Identifier
import InfraEvidence.Reference

namespace InfraEvidence

open Text

namespace Text

theorem isIdentStart_eq_false {c : Char} (h : isIdentRest c = false) : isIdentStart c = false := by
  rw [Bool.eq_false_iff] at h ⊢
  exact fun hstart => h (isIdentRest_of_isIdentStart hstart)

theorem isWord_of_isIdentRest {c : Char} (h : isIdentRest c = true) : isWord c = true := by
  have hascii : c.toNat < 0x80 := Nat.lt_of_le_of_lt (toNat_of_isIdentRest h).2 (by decide)
  rw [isWord, if_pos hascii, h]

end Text

namespace Reference

/-! ## References -/

/-- The type of a resource of a known provider, or `module`. -/
def IsTarget (type : List Char) : Prop :=
  type = "module".toList ∨ ∃ p ∈ providers, ∃ word, word ≠ [] ∧ (∀ c ∈ word, isWord c = true) ∧
    type = p.toList ++ word

/-- A type, a dot and an identifier. -/
def IsReference (s : List Char) : Prop :=
  ∃ type name, IsTarget type ∧ IsIdentifier name ∧ s = type ++ '.' :: name

theorem IsTarget.forall_isWord {type : List Char} (h : IsTarget type) :
    ∀ c ∈ type, isWord c = true := by
  rcases h with rfl | ⟨p, hp, word, -, hword, rfl⟩
  · exact List.all_eq_true.1 (by decide)
  · refine List.forall_mem_append.2 ⟨?_, hword⟩
    simp only [providers, List.mem_cons, List.not_mem_nil, or_false] at hp
    rcases hp with rfl | rfl | rfl <;> exact List.all_eq_true.1 (by decide)

theorem IsTarget.head {type : List Char} (h : IsTarget type) :
    ∃ c cs, type = c :: cs ∧ c ∈ ['a', 'g', 'm'] := by
  rcases h with rfl | ⟨p, hp, word, -, -, rfl⟩
  · exact ⟨'m', "odule".toList, rfl, by decide⟩
  · simp only [providers, List.mem_cons, List.not_mem_nil, or_false] at hp
    rcases hp with rfl | rfl | rfl
    · exact ⟨'a', "ws_".toList ++ word, rfl, by decide⟩
    · exact ⟨'a', "zurerm_".toList ++ word, rfl, by decide⟩
    · exact ⟨'g', "oogle_".toList ++ word, rfl, by decide⟩

theorem IsReference.head {ref : List Char} (h : IsReference ref) :
    ∃ c cs, ref = c :: cs ∧ c ∈ ['a', 'g', 'm'] := by
  obtain ⟨type, name, htype, -, rfl⟩ := h
  obtain ⟨c, cs, rfl, hc⟩ := htype.head
  exact ⟨c, cs ++ '.' :: name, rfl, hc⟩

theorem IsReference.word_or_dot {ref : List Char} (h : IsReference ref) :
    ∀ c ∈ ref, isWord c = true ∨ c = '.' := by
  obtain ⟨type, name, htype, hname, rfl⟩ := h
  refine List.forall_mem_append.2 ⟨fun c hc => Or.inl (htype.forall_isWord c hc), ?_⟩
  refine List.forall_mem_cons.2 ⟨Or.inr rfl, fun c hc => Or.inl ?_⟩
  exact isWord_of_isIdentRest (hname.forall_isIdentRest c hc)

theorem IsReference.append {ref t : List Char} (h : IsReference ref)
    (ht : ∀ c ∈ t, isIdentRest c = true) : IsReference (ref ++ t) := by
  obtain ⟨type, name, htype, hname, rfl⟩ := h
  exact ⟨type, name ++ t, htype, hname.append ht, by simp⟩

/-! ## The reference at the beginning of a text -/

theorem isWord_dot : isWord '.' = false := by decide

theorem providerType?_of_word {p word : List Char} (hne : word ≠ [])
    (hword : ∀ c ∈ word, isWord c = true) (rest : List Char) :
    providerType? (p ++ word ++ '.' :: rest) (String.ofList p) =
      some (p ++ word, '.' :: rest) := by
  have hdot : ¬ isWord '.' = true := by simp [isWord_dot]
  have hdrop : dropLeading? p (p ++ word ++ '.' :: rest) = some (word ++ '.' :: rest) :=
    dropLeading?_eq_some.2 (List.append_assoc _ _ _)
  have htake : (word ++ '.' :: rest).takeWhile isWord = word := by
    rw [List.takeWhile_append_of_pos hword, List.takeWhile_cons_of_neg hdot, List.append_nil]
  have hafter : (word ++ '.' :: rest).dropWhile isWord = '.' :: rest := by
    rw [List.dropWhile_append_of_pos hword, List.dropWhile_cons_of_neg hdot]
  rw [providerType?, String.toList_ofList, hdrop]
  simp [htake, hafter, hne]

theorem type?_of_isTarget {type : List Char} (h : IsTarget type) (rest : List Char) :
    type? (type ++ '.' :: rest) = some (type, '.' :: rest) := by
  rcases h with rfl | ⟨p, hp, word, hne, hword, rfl⟩
  · rfl
  · have hfound : providerType? (p.toList ++ word ++ '.' :: rest) p =
        some (p.toList ++ word, '.' :: rest) := by
      have := providerType?_of_word (p := p.toList) hne hword rest
      rwa [String.ofList_toList] at this
    -- what begins with one provider begins with no other
    have hfirst : providers.findSome? (providerType? (p.toList ++ word ++ '.' :: rest)) =
        some (p.toList ++ word, '.' :: rest) := by
      simp only [providers, List.mem_cons, List.not_mem_nil, or_false] at hp
      rcases hp with rfl | rfl | rfl
      · rw [providers, List.findSome?_cons, hfound]
      · rw [providers, List.findSome?_cons, List.findSome?_cons, hfound]
        rfl
      · rw [providers, List.findSome?_cons, List.findSome?_cons, List.findSome?_cons, hfound]
        rfl
    rw [type?, hfirst, Option.some_or]

theorem isTarget_of_type? {s type rest : List Char} (h : type? s = some (type, rest)) :
    IsTarget type := by
  rw [type?, Option.or_eq_some_iff] at h
  rcases h with h | ⟨-, h⟩
  · obtain ⟨p, hp, h⟩ := List.exists_of_findSome?_eq_some h
    rw [providerType?] at h
    split at h
    · contradiction
    · next r _ =>
      split at h
      · contradiction
      · next hne =>
        simp only [Option.some.injEq, Prod.mk.injEq] at h
        refine Or.inr ⟨p, hp, r.takeWhile isWord, ?_, fun c hc => List.mem_takeWhile_imp hc,
          h.1.symm⟩
        simpa using hne
  · obtain ⟨r, -, he⟩ := Option.map_eq_some_iff.1 h
    exact Or.inl (Prod.mk.inj he).1.symm

/-- **The reference at the beginning of a text** is the longest one there. -/
theorem start?_eq_some_iff {s ref rest : List Char} :
    start? s = some (ref, rest) ↔
      s = ref ++ rest ∧ IsReference ref ∧ ∀ c ∈ rest.head?, isIdentRest c = false := by
  constructor
  · intro h
    refine ⟨(start?_append h).symm, ?_⟩
    rw [start?] at h
    split at h
    · next type r ht =>
      split at h
      · next name r' hi =>
        simp only [Option.some.injEq, Prod.mk.injEq] at h
        obtain ⟨rfl, rfl⟩ := h
        obtain ⟨-, hname, hrest⟩ := identifier?_eq_some_iff.1 hi
        exact ⟨⟨type, name, isTarget_of_type? ht, hname, rfl⟩, hrest⟩
      · contradiction
    · contradiction
  · rintro ⟨rfl, ⟨type, name, htype, hname, rfl⟩, hrest⟩
    have hi : identifier? (name ++ rest) = some (name, rest) :=
      identifier?_eq_some_iff.2 ⟨rfl, hname, hrest⟩
    rw [List.append_assoc, List.cons_append, start?, type?_of_isTarget htype]
    simp only [hi]

theorem start?_cons_eq_none {c : Char} (h : c ∉ ['a', 'g', 'm']) (s : List Char) :
    start? (c :: s) = none := by
  rw [Option.eq_none_iff_forall_not_mem]
  rintro ⟨ref, rest⟩ hstart
  obtain ⟨he, href, -⟩ := start?_eq_some_iff.1 hstart
  obtain ⟨d, cs, rfl, hd⟩ := href.head
  rw [List.cons_append, List.cons.injEq] at he
  exact h (he.1 ▸ hd)

/-! ## Matches -/

/-- The text ends with a character of a word. -/
def afterWord (front : List Char) : Bool := front.getLast?.any isWord

theorem afterWord_concat (front : List Char) (c : Char) : afterWord (front ++ [c]) = isWord c := by
  rw [afterWord, List.getLast?_concat, Option.any_some]

theorem afterWord_reference {ref : List Char} (h : IsReference ref) (front : List Char) :
    afterWord (front ++ ref) = true := by
  obtain ⟨type, name, -, hname, rfl⟩ := h
  have hlast := List.getLast?_eq_some_getLast hname.ne_nil
  have hsplit : front ++ (type ++ '.' :: name) = front ++ type ++ ['.'] ++ name := by simp
  rw [afterWord, hsplit, List.getLast?_append, hlast, Option.some_or, Option.any_some]
  exact isWord_of_isIdentRest (hname.forall_isIdentRest _ (List.getLast_mem _))

/-- The reference `ref` stands between `front` and `rest`: no word goes on into
    it, and it could not be longer. -/
structure Matches (front ref rest : List Char) : Prop where
  fresh : afterWord front = false
  isReference : IsReference ref
  longest : ∀ c ∈ rest.head?, isIdentRest c = false

theorem matches_iff {front ref rest : List Char} :
    Matches front ref rest ↔
      afterWord front = false ∧ start? (ref ++ rest) = some (ref, rest) := by
  constructor
  · intro h
    exact ⟨h.fresh, start?_eq_some_iff.2 ⟨rfl, h.isReference, h.longest⟩⟩
  · rintro ⟨hfresh, hstart⟩
    obtain ⟨-, href, hrest⟩ := start?_eq_some_iff.1 hstart
    exact ⟨hfresh, href, hrest⟩

/-- Where any reference begins, one is found. -/
theorem start?_ne_none {ref : List Char} (h : IsReference ref) (rest : List Char) :
    start? (ref ++ rest) ≠ none := by
  have hstart : start? (ref ++ rest) =
      some (ref ++ rest.takeWhile isIdentRest, rest.dropWhile isIdentRest) := by
    refine start?_eq_some_iff.2 ⟨?_, ?_, head?_dropWhile _ rest⟩
    · rw [List.append_assoc, List.takeWhile_append_dropWhile]
    · exact h.append fun c hc => List.mem_takeWhile_imp hc
  rw [hstart]
  exact Option.some_ne_none _

/-! ## Divisions -/

/-- The parts of what follows the text `front`, from left to right: a reference
    wherever one matches, else the next character. -/
inductive Division : List Char → List Piece → Prop
  | nil {front} : Division front []
  | reference {front ref ps} : Matches front ref (joinPieces ps) → Division (front ++ ref) ps →
      Division front (.reference ref :: ps)
  | plain {front c ps} :
      (∀ ref rest, c :: joinPieces ps = ref ++ rest → ¬ Matches front ref rest) →
      Division (front ++ [c]) ps → Division front (.plain c :: ps)

theorem joinPieces_cons (p : Piece) (ps : List Piece) :
    joinPieces (p :: ps) = p.text ++ joinPieces ps := List.flatMap_cons

theorem division_pieces {front : List Char} {w : Bool} (hw : afterWord front = w)
    (s : List Char) : Division front (pieces w s) := by
  fun_induction pieces w s generalizing front with
  | case1 => exact .nil
  | case2 c s ih =>
    refine .plain (fun ref rest _ hm => ?_) (ih (afterWord_concat front c))
    rw [hm.fresh] at hw
    contradiction
  | case3 w c s hfalse ref rest h _ ih =>
    obtain ⟨he, href, hrest⟩ := start?_eq_some_iff.1 h
    refine .reference ⟨?_, href, ?_⟩ (ih (afterWord_reference href front))
    · simpa [hw] using hfalse
    · rwa [joinPieces_pieces]
  | case4 w c s hfalse h ih =>
    refine .plain (fun ref rest he hm => ?_) (ih (afterWord_concat front c))
    rw [joinPieces_pieces] at he
    rw [he, (matches_iff.1 hm).2] at h
    contradiction

theorem pieces_reference {s ref rest : List Char} (h : start? s = some (ref, rest)) :
    pieces false s = .reference ref :: pieces true rest := by
  cases s with
  | nil => simp [start?, type?, providers, providerType?, dropLeading?] at h
  | cons c s =>
    rw [pieces, if_neg (by decide)]
    split
    · next h' =>
      rw [h, Option.some.injEq, Prod.mk.injEq] at h'
      rw [h'.1, h'.2]
    · next h' =>
      rw [h] at h'
      contradiction

theorem pieces_plain {w : Bool} {c : Char} {s : List Char}
    (h : w = true ∨ start? (c :: s) = none) :
    pieces w (c :: s) = .plain c :: pieces (isWord c) s := by
  rw [pieces]
  split
  · rfl
  · next hw =>
    have hnone := h.resolve_left hw
    split
    · next h' =>
      rw [hnone] at h'
      contradiction
    · rfl

theorem Division.pieces_eq {front : List Char} {ps : List Piece} (h : Division front ps) :
    pieces (afterWord front) (joinPieces ps) = ps := by
  induction h with
  | nil => simp [joinPieces, pieces]
  | @reference front ref ps hm _ ih =>
    rw [joinPieces_cons, Piece.text, hm.fresh, pieces_reference (matches_iff.1 hm).2,
      ← afterWord_reference hm.isReference front, ih]
  | @plain front c ps hno _ ih =>
    have hnone : afterWord front = true ∨ start? (c :: joinPieces ps) = none := by
      by_contra hcon
      rw [not_or, Bool.not_eq_true] at hcon
      obtain ⟨⟨ref, rest⟩, hstart⟩ := Option.ne_none_iff_exists'.1 hcon.2
      have he := (start?_append hstart).symm
      exact hno ref rest he (matches_iff.2 ⟨hcon.1, he ▸ hstart⟩)
    rw [joinPieces_cons, Piece.text, List.singleton_append, pieces_plain hnone,
      ← afterWord_concat front c, ih]

/-- **A text has one division**, its parts. -/
theorem division_iff {ps : List Piece} {s : List Char} :
    joinPieces ps = s ∧ Division [] ps ↔ pieces false s = ps := by
  constructor
  · rintro ⟨rfl, h⟩
    exact h.pieces_eq
  · rintro rfl
    exact ⟨joinPieces_pieces false s, division_pieces rfl s⟩

end Reference

end InfraEvidence
