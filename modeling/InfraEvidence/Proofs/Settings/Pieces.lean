/-
  InfraEvidence — the references in a text of settings.

  * `Expansion.pieces`: a text as references with braces, references without
    braces and single characters;
  * `simultaneous`: the text in which every reference gives way to the value of
    its own variable, and nothing else changes;
  * `Cut`, `cut_pieces`: what the pieces of a text are, and what may follow each;
  * `Cut.bracedNames_eq`, `Cut.bareNames_eq`: the names that the program looks for
    are those of the pieces, as long as no braces hold a dollar sign.
-/
import InfraEvidence.Proofs.Block.Identifier
import InfraEvidence.Settings.Expansion

namespace InfraEvidence

open Text

theorem IsIdentifier.not_mem_dollar {name : List Char} (h : IsIdentifier name) : '$' ∉ name :=
  fun hc => absurd (h.forall_isIdentRest _ hc) (by decide)

namespace Expansion

/-- A part of a text of settings. -/
inductive Piece
  | braced (name : List Char)
  | bare (name : List Char)
  | plain (c : Char)
  deriving DecidableEq

namespace Piece

/-- The piece as it is written. -/
def text : Piece → List Char
  | braced name => bracedRef name
  | bare name => bareRef name
  | plain c => [c]

/-- The variable that the piece refers to. -/
def name? : Piece → Option (List Char)
  | braced name => some name
  | bare name => some name
  | plain _ => none

/-- The name of a reference with braces. -/
def braced? : Piece → Option (List Char)
  | braced name => some name
  | _ => none

/-- The name of a reference without braces. -/
def bare? : Piece → Option (List Char)
  | bare name => some name
  | _ => none

/-- The value of the variable that the piece refers to, if it is set. -/
def value? (env : Environment) (p : Piece) : Option String :=
  p.name?.bind fun name => env (String.ofList name)

/-- The value of the piece, or else the piece as it is written. -/
def own (env : Environment) (p : Piece) : List Char := (p.value? env).elim p.text String.toList

theorem text_ne_nil (p : Piece) : p.text ≠ [] := by
  cases p <;> simp [text, bracedRef, bareRef]

end Piece

/-! ## Cutting a text -/

/-- The name of the reference with braces that a dollar sign begins, from what
    follows the dollar sign. -/
def bracedName? : List Char → Option (List Char)
  | '{' :: rest =>
    let name := rest.takeWhile (· != '}')
    if name ≠ [] ∧ name.length < rest.length then some name else none
  | _ => none

/-- The piece that a text begins with, from its first character and the others. -/
def firstPiece (c : Char) (s : List Char) : Piece :=
  if c = '$' then
    match bracedName? s, identifier? s with
    | some name, _ => .braced name
    | none, some (name, _) => .bare name
    | none, none => .plain c
  else .plain c

/-- The pieces of a text.  The counter passes over the characters of a piece
    that has been found. -/
def piecesFrom : Nat → List Char → List Piece
  | _, [] => []
  | skip + 1, _ :: s => piecesFrom skip s
  | 0, c :: s => firstPiece c s :: piecesFrom ((firstPiece c s).text.length - 1) s

/-- The pieces of a text, from left to right. -/
def pieces (s : List Char) : List Piece := piecesFrom 0 s

/-- The text with every reference to a variable that is set replaced by its
    value, all at once. -/
def simultaneous (env : Environment) (s : List Char) : List Char := (pieces s).flatMap (·.own env)

/-! ## What the pieces are -/

/-- A dollar sign before `s` begins no reference. -/
structure NoReference (s : List Char) : Prop where
  bare : ∀ c ∈ s.head?, isIdentStart c = false
  braced : ∀ r, s = '{' :: r → '}' ∈ r → r.head? = some '}'

/-- The piece is the first one of a text in which `s` follows it. -/
def Piece.IsFirst (s : List Char) : Piece → Prop
  | braced name => name ≠ [] ∧ '}' ∉ name
  | bare name => IsIdentifier name ∧ ∀ c ∈ s.head?, isIdentRest c = false
  | plain c => c = '$' → NoReference s

/-- The text consists of these pieces. -/
inductive Cut : List Char → List Piece → Prop
  | nil : Cut [] []
  | cons {p : Piece} {s : List Char} {ps : List Piece} :
      p.IsFirst s → Cut s ps → Cut (p.text ++ s) (p :: ps)

theorem bracedName?_eq_some_iff {s name : List Char} :
    bracedName? s = some name ↔
      ∃ rest, s = '{' :: (name ++ '}' :: rest) ∧ name ≠ [] ∧ '}' ∉ name := by
  constructor
  · intro h
    unfold bracedName? at h
    split at h
    case h_2 => contradiction
    case h_1 r =>
      simp only at h
      split at h
      case isFalse => contradiction
      case isTrue hname =>
        obtain rfl := Option.some.inj h
        have hsplit := List.takeWhile_append_dropWhile (p := (· != '}')) (l := r)
        cases hdrop : r.dropWhile (· != '}') with
        | nil =>
          rw [hdrop, List.append_nil] at hsplit
          exact absurd hname.2 (by rw [hsplit]; exact Nat.lt_irrefl _)
        | cons d rest =>
          obtain rfl : d = '}' := by simpa using head?_dropWhile (· != '}') r d (by rw [hdrop]; rfl)
          exact ⟨rest, by rw [← hdrop, hsplit], hname.1, fun hc => by
            simpa using List.mem_takeWhile_imp hc⟩
  · rintro ⟨rest, rfl, hne, hclose⟩
    have htake : (name ++ '}' :: rest).takeWhile (· != '}') = name := by
      rw [List.takeWhile_append_of_pos fun c hc => bne_iff_ne.2 (ne_of_mem_of_not_mem hc hclose)]
      simp
    simp [bracedName?, htake, hne]

theorem bracedName?_eq_none_iff {s : List Char} :
    bracedName? s = none ↔ ∀ r, s = '{' :: r → '}' ∈ r → r.head? = some '}' := by
  rw [Option.eq_none_iff_forall_ne_some]
  constructor
  · rintro h r rfl hr
    obtain ⟨name, rest, rfl, hclose⟩ := List.eq_append_cons_of_mem hr
    cases name with
    | nil => rfl
    | cons c name =>
      exact absurd (bracedName?_eq_some_iff.2 ⟨rest, rfl, List.cons_ne_nil _ _, hclose⟩) (h _)
  · intro h name hname
    obtain ⟨rest, rfl, hne, hclose⟩ := bracedName?_eq_some_iff.1 hname
    obtain ⟨c, name, rfl⟩ := List.exists_cons_of_ne_nil hne
    have hc : c = '}' := by simpa using h _ rfl (by simp)
    exact hclose (hc ▸ List.mem_cons_self)

theorem exists_isFirst (c : Char) (s : List Char) :
    ∃ rest, c :: s = (firstPiece c s).text ++ rest ∧ (firstPiece c s).IsFirst rest := by
  unfold firstPiece
  split
  case isFalse hc => exact ⟨s, rfl, fun h => absurd h hc⟩
  case isTrue hc =>
    subst hc
    split
    case h_1 name _ hname =>
      obtain ⟨rest, rfl, hne, hclose⟩ := bracedName?_eq_some_iff.1 hname
      exact ⟨rest, by simp [Piece.text, bracedRef], hne, hclose⟩
    case h_2 name after hbraced hname =>
      obtain ⟨rfl, hident, hafter⟩ := identifier?_eq_some_iff.1 hname
      exact ⟨after, rfl, hident, hafter⟩
    case h_3 hbraced hname =>
      exact ⟨s, rfl, fun _ => ⟨identifier?_eq_none_iff.1 hname, bracedName?_eq_none_iff.1 hbraced⟩⟩

theorem piecesFrom_eq_drop (k : Nat) (s : List Char) : piecesFrom k s = pieces (s.drop k) := by
  induction s generalizing k with
  | nil => cases k <;> rfl
  | cons c s ih =>
    cases k with
    | zero => rfl
    | succ k => exact ih k

theorem pieces_cons (c : Char) (s : List Char) :
    ∃ p rest, c :: s = p.text ++ rest ∧ p.IsFirst rest ∧ pieces (c :: s) = p :: pieces rest := by
  obtain ⟨rest, hrest, hfirst⟩ := exists_isFirst c s
  refine ⟨_, rest, hrest, hfirst, ?_⟩
  obtain ⟨d, t, ht⟩ := List.exists_cons_of_ne_nil (firstPiece c s).text_ne_nil
  have hs : s = t ++ rest := by
    rw [ht, List.cons_append] at hrest
    exact (List.cons.inj hrest).2
  have hskip : s.drop ((firstPiece c s).text.length - 1) = rest := by
    rw [ht, List.length_cons, Nat.add_sub_cancel, hs, List.drop_left]
  rw [← hskip, ← piecesFrom_eq_drop]
  rfl

theorem cut_pieces (s : List Char) : Cut s (pieces s) := by
  induction hn : s.length using Nat.strong_induction_on generalizing s with
  | _ n ih =>
    cases s with
    | nil => exact Cut.nil
    | cons c s =>
      obtain ⟨p, rest, hrest, hfirst, hpieces⟩ := pieces_cons c s
      have hlength : rest.length < n := by
        have hpos : 0 < p.text.length := List.length_pos_iff.2 p.text_ne_nil
        rw [hrest, List.length_append] at hn
        omega
      rw [hpieces, hrest]
      exact Cut.cons hfirst (ih _ hlength rest rfl)

theorem Cut.text_eq {s : List Char} {ps : List Piece} (h : Cut s ps) :
    ps.flatMap Piece.text = s := by
  induction h with
  | nil => rfl
  | cons _ _ ih => rw [List.flatMap_cons, ih]

theorem Cut.exists_isFirst {s : List Char} {ps : List Piece} (h : Cut s ps) {p : Piece}
    (hp : p ∈ ps) : ∃ t, p.IsFirst t := by
  induction h with
  | nil => cases hp
  | cons hfirst _ ih =>
    rcases List.mem_cons.1 hp with rfl | hp
    · exact ⟨_, hfirst⟩
    · exact ih hp

/-! ## The names that the program looks for -/

theorem bracedFrom_eq_drop (k : Nat) (s : List Char) : bracedFrom k s = bracedNames (s.drop k) := by
  induction s generalizing k with
  | nil => cases k <;> rfl
  | cons c s ih =>
    cases k with
    | zero => rfl
    | succ k => exact ih k

theorem bracedNames_dollar {s name : List Char} (h : bracedName? s = some name) :
    bracedNames ('$' :: s) = name :: bracedNames (s.drop (name.length + 2)) := by
  obtain ⟨rest, rfl, -, -⟩ := bracedName?_eq_some_iff.1 h
  rw [← bracedFrom_eq_drop]
  simp only [bracedName?, bracedNames, bracedFrom] at h ⊢
  split at h
  case isFalse => contradiction
  case isTrue hname => rw [Option.some.inj h] at hname ⊢; exact if_pos ⟨trivial, hname⟩

theorem bracedNames_cons {c : Char} {s : List Char} (h : c = '$' → bracedName? s = none) :
    bracedNames (c :: s) = bracedNames s := by
  rw [bracedNames]
  cases s with
  | nil => rfl
  | cons d s =>
    by_cases hd : d = '{'
    · subst hd
      rw [bracedFrom, if_neg, bracedNames]
      rintro ⟨hc, hname⟩
      have := h hc
      rw [bracedName?, if_pos hname] at this
      contradiction
    · rw [bracedFrom, bracedNames]
      rintro rest heq
      exact hd (List.cons.inj heq).1

theorem bracedNames_append {t : List Char} (ht : '$' ∉ t) (s : List Char) :
    bracedNames (t ++ s) = bracedNames s := by
  induction t with
  | nil => rfl
  | cons c t ih =>
    rw [List.mem_cons, not_or] at ht
    rw [List.cons_append, bracedNames_cons fun hc => absurd hc.symm ht.1, ih ht.2]

theorem bareNames_append {t : List Char} (ht : '$' ∉ t) (s : List Char) :
    bareNames (t ++ s) = bareNames s := by
  induction t with
  | nil => rfl
  | cons c t ih =>
    rw [List.mem_cons, not_or] at ht
    rw [← ih ht.2, List.cons_append, bareNames]
    split
    · exact if_neg fun h => ht.1 h.symm
    · rfl

theorem bracedNames_text {p : Piece} {s : List Char} (h : p.IsFirst s) :
    bracedNames (p.text ++ s) = p.braced?.toList ++ bracedNames s := by
  cases p with
  | braced name =>
    have hname : bracedName? ('{' :: (name ++ '}' :: s)) = some name :=
      bracedName?_eq_some_iff.2 ⟨s, rfl, h.1, h.2⟩
    simpa [Piece.text, bracedRef, Piece.braced?] using bracedNames_dollar hname
  | bare name =>
    obtain ⟨c, rest, rfl, hc, -⟩ := id h.1
    have hname : bracedName? (c :: rest ++ s) = none := by
      refine bracedName?_eq_none_iff.2 fun r hr => ?_
      rw [(List.cons.inj hr).1] at hc
      exact absurd hc (by decide)
    exact (bracedNames_cons fun _ => hname).trans (bracedNames_append h.1.not_mem_dollar s)
  | plain c => exact bracedNames_cons fun hc => bracedName?_eq_none_iff.2 (h hc).braced

theorem bareNames_text {p : Piece} {s : List Char} (h : p.IsFirst s)
    (hp : ∀ name ∈ p.braced?, '$' ∉ name) :
    bareNames (p.text ++ s) = p.bare?.toList ++ bareNames s := by
  cases p with
  | braced name =>
    have hrest : '$' ∉ '{' :: name ++ ['}'] := by simpa using hp name rfl
    have hnone : identifier? ('{' :: name ++ ['}'] ++ s) = none :=
      identifier?_eq_none_iff.2 (by simp [isIdentStart])
    rw [← bareNames_append hrest s]
    simp only [Piece.text, bracedRef, List.cons_append] at hnone ⊢
    rw [bareNames, hnone]
    rfl
  | bare name =>
    have hname : identifier? (name ++ s) = some (name, s) :=
      identifier?_eq_some_iff.2 ⟨rfl, h.1, h.2⟩
    rw [Piece.text, bareRef, List.cons_append, bareNames, hname]
    simp [Piece.bare?, bareNames_append h.1.not_mem_dollar]
  | plain c =>
    rw [Piece.text, List.singleton_append, bareNames]
    split
    · next hname =>
      rw [if_neg fun hc => ?_]
      · rfl
      · rw [identifier?_eq_none_iff.2 (h hc).bare] at hname
        contradiction
    · rfl

/-- The names that the program looks for in braces are those of the pieces. -/
theorem Cut.bracedNames_eq {s : List Char} {ps : List Piece} (h : Cut s ps) :
    bracedNames s = ps.filterMap Piece.braced? := by
  induction h with
  | nil => rfl
  | @cons p s ps hp _ ih =>
    rw [bracedNames_text hp, ih, List.filterMap_cons]
    cases p.braced? <;> rfl

/-- So are the names without braces, if no braces hold a dollar sign. -/
theorem Cut.bareNames_eq {s : List Char} {ps : List Piece} (h : Cut s ps)
    (hbraces : ∀ name ∈ bracedNames s, '$' ∉ name) : bareNames s = ps.filterMap Piece.bare? := by
  rw [h.bracedNames_eq] at hbraces
  induction h with
  | nil => rfl
  | @cons p s ps hp _ ih =>
    rw [List.forall_mem_filterMap, List.forall_mem_cons] at hbraces
    rw [bareNames_text hp hbraces.1, ih (List.forall_mem_filterMap.2 hbraces.2),
      List.filterMap_cons]
    cases p.bare? <;> rfl

theorem mem_bracedNames {s name : List Char} : name ∈ bracedNames s ↔ .braced name ∈ pieces s := by
  rw [(cut_pieces s).bracedNames_eq, List.mem_filterMap]
  constructor
  · rintro ⟨p, hp, hname⟩
    cases p <;> simp_all [Piece.braced?]
  · exact fun h => ⟨_, h, rfl⟩

section

variable {s : List Char} (hbraces : ∀ name ∈ bracedNames s, '$' ∉ name)

include hbraces

theorem mem_bareNames {name : List Char} : name ∈ bareNames s ↔ .bare name ∈ pieces s := by
  rw [(cut_pieces s).bareNames_eq hbraces, List.mem_filterMap]
  constructor
  · rintro ⟨p, hp, hname⟩
    cases p <;> simp_all [Piece.bare?]
  · exact fun h => ⟨_, h, rfl⟩

theorem mem_bareNames_of_bare? {p : Piece} (hp : p ∈ pieces s) {name : List Char}
    (hname : name ∈ p.bare?) : name ∈ bareNames s := by
  rw [(cut_pieces s).bareNames_eq hbraces]
  exact List.mem_filterMap.2 ⟨p, hp, hname⟩

end

end Expansion

end InfraEvidence
