/-
  InfraEvidence — the width of texts in columns.

  * `charWidth`: the columns of a character on a display with columns of equal
    width: two for wide ones, none for combining marks, one for the others;
  * `width`: the columns of a text;
  * `padTo`: a text with blanks up to a width.
-/
import InfraEvidence.Text.Blank
import InfraEvidence.Text.WidthTable

namespace InfraEvidence.Text

/-- The columns of a character. -/
def charWidth (c : Char) : Nat :=
  if c.toNat < 0x80 then 1
  else if inRanges markRanges c then 0
  else if inRanges wideRanges c then 2
  else 1

/-- The columns of a text. -/
def width (s : List Char) : Nat :=
  -- the zero is the one that the lemmas on sums of natural numbers are about
  @List.sum Nat _ Zero.ofOfNat0 (s.map charWidth)

/-- A text with blanks up to the width `w`. -/
def padTo (w : Nat) (s : List Char) : List Char := s ++ List.replicate (w - width s) ' '

theorem width_append (s t : List Char) : width (s ++ t) = width s + width t := by
  rw [width, List.map_append, List.sum_append_nat]
  rfl

/-- A text that is not too wide has the width it is padded to. -/
theorem width_padTo {w : Nat} {s : List Char} (h : width s ≤ w) : width (padTo w s) = w := by
  have hb : charWidth ' ' = 1 := by decide
  have hp : width (List.replicate (w - width s) ' ') = w - width s := by
    rw [width, List.map_replicate, hb, List.sum_replicate_nat, Nat.mul_one]
  rw [padTo, width_append, hp]
  omega

end InfraEvidence.Text
