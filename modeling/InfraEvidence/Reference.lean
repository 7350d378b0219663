/-
  InfraEvidence — references to other blocks in the values of settings.

  A reference is the type of a resource of a known provider, or `module`, a
  dot and an identifier, with no word character right before it
  (`aws_vpc.main`, `module.network`).

  * `Reference.start?`: the reference that a text begins with;
  * `Reference.pieces`: a value taken apart, from left to right, into its
    references and the characters between them;
  * `Reference.joinPieces_pieces`: the pieces make up the value;
  * `Reference.sanitize`: in every value of some blocks, a reference to none
    of these blocks becomes `Reference.external`.
-/
import InfraEvidence.Block.Basic
import InfraEvidence.Text.Search
import InfraEvidence.Text.Word

namespace InfraEvidence

open Text

namespace Reference

/-- What stands for a reference to a block that is not there. -/
def external : String := "[EXTERNAL_REF]"

/-- The beginnings of the resource types of the known providers. -/
def providers : List String := ["aws_", "azurerm_", "google_"]

/-- The type of a known provider at the beginning of a text, and what follows. -/
def providerType? (s : List Char) (provider : String) : Option (List Char × List Char) :=
  match dropLeading? provider.toList s with
  | none => none
  | some rest =>
    if (rest.takeWhile isWord).isEmpty then none
    else some (provider.toList ++ rest.takeWhile isWord, rest.dropWhile isWord)

/-- The type at the beginning of a text: of a provider, or `module`. -/
def type? (s : List Char) : Option (List Char × List Char) :=
  (providers.findSome? (providerType? s)).or
    ((dropLeading? "module".toList s).map fun rest => ("module".toList, rest))

/-- The reference at the beginning of a text, and what follows it. -/
def start? (s : List Char) : Option (List Char × List Char) :=
  match type? s with
  | some (type, '.' :: rest) =>
    match identifier? rest with
    | some (name, rest) => some (type ++ '.' :: name, rest)
    | none => none
  | _ => none

/-- A part of a value. -/
inductive Piece where
  /-- A character outside of references -/
  | plain (c : Char)
  /-- A reference -/
  | reference (text : List Char)
deriving DecidableEq

/-- The text of a part. -/
def Piece.text : Piece → List Char
  | plain c => [c]
  | reference text => text

/-- The text of several parts. -/
def joinPieces (ps : List Piece) : List Char := ps.flatMap Piece.text

theorem providerType?_append {s type rest : List Char} {p : String}
    (h : providerType? s p = some (type, rest)) : type ++ rest = s := by
  simp only [providerType?] at h
  split at h
  · contradiction
  · next r hr =>
    split at h
    · contradiction
    · simp only [Option.some.injEq, Prod.mk.injEq] at h
      obtain ⟨rfl, rfl⟩ := h
      rw [dropLeading?_eq_some.1 hr, List.append_assoc, List.takeWhile_append_dropWhile]

theorem type?_append {s type rest : List Char} (h : type? s = some (type, rest)) :
    type ++ rest = s := by
  simp only [type?, Option.or_eq_some_iff] at h
  rcases h with h | ⟨_, h⟩
  · obtain ⟨p, _, hp⟩ := List.exists_of_findSome?_eq_some h
    exact providerType?_append hp
  · obtain ⟨r, hr, he⟩ := Option.map_eq_some_iff.1 h
    simp only [Prod.mk.injEq] at he
    obtain ⟨rfl, rfl⟩ := he
    exact (dropLeading?_eq_some.1 hr).symm

/-- A reference and what follows it make up the text. -/
theorem start?_append {s ref rest : List Char} (h : start? s = some (ref, rest)) :
    ref ++ rest = s := by
  simp only [start?] at h
  split at h
  · next type r ht =>
    split at h
    · next name r' hi =>
      simp only [Option.some.injEq, Prod.mk.injEq] at h
      obtain ⟨rfl, rfl⟩ := h
      rw [← type?_append ht, ← identifier?_append hi]
      simp
    · contradiction
  · contradiction

/-- A reference is not empty. -/
theorem length_start? {s ref rest : List Char} (h : start? s = some (ref, rest)) :
    rest.length < s.length := by
  have he := start?_append h
  have hr : ref ≠ [] := by
    simp only [start?] at h
    split at h
    · split at h
      · simp only [Option.some.injEq, Prod.mk.injEq] at h
        rw [← h.1]
        simp
      · contradiction
    · contradiction
  rw [← he, List.length_append]
  have := List.length_pos_iff.2 hr
  omega

/-- The parts of a value.  After a word character no reference begins. -/
def pieces (afterWord : Bool) : List Char → List Piece
  | [] => []
  | c :: s =>
    if afterWord then .plain c :: pieces (isWord c) s
    else
      match h : start? (c :: s) with
      | some (ref, rest) =>
        have := length_start? h
        .reference ref :: pieces true rest
      | none => .plain c :: pieces (isWord c) s
termination_by s => s.length
decreasing_by all_goals (simp only [List.length_cons] at *; omega)

/-- **The parts of a value make it up.** -/
theorem joinPieces_pieces (afterWord : Bool) (s : List Char) :
    joinPieces (pieces afterWord s) = s := by
  fun_induction pieces afterWord s with
  | case1 => rfl
  | case2 c s ih => simpa [joinPieces, Piece.text] using ih
  | case3 _ c s _ ref rest h _ ih =>
    rw [← start?_append h]
    simpa [joinPieces, Piece.text] using ih
  | case4 _ c s _ _ ih => simpa [joinPieces, Piece.text] using ih

/-- A part as it is written where only the references `known` are kept. -/
def Piece.sanitized (known : List String) : Piece → List Char
  | plain c => [c]
  | reference text => if known.contains (String.ofList text) then text else external.toList

/-- A value in which only the references `known` are kept. -/
def sanitizeValue (known : List String) (value : String) : String :=
  String.ofList ((pieces false value.toList).flatMap (Piece.sanitized known))

/-- The references to the blocks of a collection. -/
def targets (bs : List Block) : List String := bs.map (·.canonicalReference)

/-- A block whose values keep only the references `known`. -/
def sanitizeBlock (known : List String) (b : Block) : Block :=
  { b with
    settings := b.settings.mapValues (sanitizeValue known)
    assignments := b.assignments.map fun p => (p.1, sanitizeValue known p.2) }

/-- The blocks, in whose values only references to each other are kept. -/
def sanitize (bs : List Block) : List Block := bs.map (sanitizeBlock (targets bs))

end Reference

end InfraEvidence
