/-
  InfraEvidence — the lines of a text.

  * `linesOf lf cr`: a line ends at `lf`, and a `cr` right before the `lf`
    belongs to the end too.  What follows the last `lf` is a line of its own
    unless it is empty, and keeps its `cr`;
  * `lines`, `byteLines`: the lines of a text, and of its bytes;
  * `unlines`: every line with its line feed;
  * `linesOf_append`: a line without `lf` and without a final `cr` is read back.
-/
namespace InfraEvidence.Text

section
variable {α : Type}

/-- A symbol written before the first of some lines. -/
def consFirst (c : α) : List (List α) → List (List α)
  | [] => [[c]]
  | l :: ls => (c :: l) :: ls

variable [DecidableEq α] (lf cr : α)

/-- The lines of a sequence of symbols that end at `lf`, or at `cr` and `lf`. -/
def linesOf : List α → List (List α)
  | [] => []
  | c :: s =>
    if c = lf then [] :: linesOf s
    else if c = cr ∧ s.head? = some lf then linesOf s
    else consFirst c (linesOf s)

/-- A line without `lf` and without a final `cr` is read up to the `lf` that
    follows it. -/
theorem linesOf_append {l : List α} (hn : lf ∉ l) (hr : l.getLast? ≠ some cr) (s : List α) :
    linesOf lf cr (l ++ lf :: s) = l :: linesOf lf cr s := by
  induction l with
  | nil => simp [linesOf]
  | cons c l ih =>
    have hc : c ≠ lf := fun e => hn (by simp [e])
    have hl : l.getLast? ≠ some cr := by
      cases l with
      | nil => simp
      | cons d l => simpa [List.getLast?_cons_cons] using hr
    have hend : ¬ (c = cr ∧ (l ++ lf :: s).head? = some lf) := by
      rintro ⟨rfl, h⟩
      cases l with
      | nil => simp at hr
      | cons d l => exact hn (by simp_all)
    rw [List.cons_append, linesOf, if_neg hc, if_neg hend, ih (fun m => hn (by simp [m])) hl,
      consFirst]

end

/-- The lines of a text. -/
def lines (s : List Char) : List (List Char) := linesOf '\n' '\r' s

/-- The lines of a text given by its bytes. -/
def byteLines (bs : List UInt8) : List (List UInt8) := linesOf 0x0A 0x0D bs

/-- The text of some lines, each with its line feed. -/
def unlines (ls : List (List Char)) : List Char := ls.flatMap (· ++ ['\n'])

end InfraEvidence.Text
