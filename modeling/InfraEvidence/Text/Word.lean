/-
  InfraEvidence — words and identifiers.

  * `isWord`: the characters of words, in every script: letters, marks,
    decimal digits, connecting punctuation and join controls;
  * `isIdentStart`, `isIdentRest`: the characters of identifiers, ASCII only;
  * `identifier?`: the identifier that a text begins with.
-/
import InfraEvidence.Text.Blank
import InfraEvidence.Text.WordTable

namespace InfraEvidence.Text

/-- A letter or the underscore, ASCII only. -/
def isIdentStart (c : Char) : Bool := c.isAlpha || c == '_'

/-- A letter, a digit or the underscore, ASCII only. -/
def isIdentRest (c : Char) : Bool := c.isAlphanum || c == '_'

/-- A character of a word, in any script. -/
def isWord (c : Char) : Bool :=
  if c.toNat < 0x80 then isIdentRest c else inRanges wordRanges c

/-- The longest identifier at the beginning of a text, and what follows it. -/
def identifier? : List Char → Option (List Char × List Char)
  | [] => none
  | c :: rest =>
    if isIdentStart c then some (c :: rest.takeWhile isIdentRest, rest.dropWhile isIdentRest)
    else none

/-- An identifier and what follows it make up the text. -/
theorem identifier?_append {s name rest : List Char} (h : identifier? s = some (name, rest)) :
    name ++ rest = s := by
  cases s with
  | nil => simp [identifier?] at h
  | cons c cs =>
    simp only [identifier?] at h
    split at h
    · simp only [Option.some.injEq, Prod.mk.injEq] at h
      obtain ⟨rfl, rfl⟩ := h
      simp [List.takeWhile_append_dropWhile]
    · contradiction

end InfraEvidence.Text
