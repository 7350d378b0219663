/-
  InfraEvidence — the characters of tables.

  * `Text.mem_intercalate`: the characters of joined pieces are those of the pieces
    and of the separator;
  * `Table.drawing`: the characters that tables are drawn with;
  * `Table.mem_rowLine`, `Table.mem_rowLines`: a row shows what stands in its cells
    and what it is drawn with;
  * `Table.mem_render`: and so does a table.
-/
import InfraEvidence.Report.Table

namespace InfraEvidence

/-! ## Joined pieces -/

namespace Text

variable {α : Type} {x : α} {separator : List α}

theorem mem_intercalate {pieces : List (List α)} (h : x ∈ separator.intercalate pieces) :
    x ∈ separator ∨ ∃ p ∈ pieces, x ∈ p := by
  induction pieces with
  | nil => exact absurd h List.not_mem_nil
  | cons p pieces ih =>
    cases pieces with
    | nil =>
      rw [List.intercalate_singleton] at h
      exact Or.inr ⟨p, List.mem_cons_self, h⟩
    | cons q pieces =>
      rw [List.intercalate_cons_cons, List.mem_append, List.mem_append] at h
      rcases h with (h | h) | h
      · exact Or.inr ⟨p, List.mem_cons_self, h⟩
      · exact Or.inl h
      · refine (ih h).imp_right ?_
        rintro ⟨r, hr, hx⟩
        exact ⟨r, List.mem_cons_of_mem p hr, hx⟩

end Text

namespace Table

open Text

variable {c : Char}

/-- The characters that tables are drawn with. -/
def drawing : List Char := "┌─┐│ ╞═╡└┘\n".toList

theorem mem_of_mem_cellLines {cell : String} {line : List Char} (hline : line ∈ cellLines cell)
    (hc : c ∈ line) : c ∈ cell.toList := by
  have hback : ['\n'].intercalate (cellLines cell) = cell.toList := List.intercalate_splitOn '\n'
  rw [← hback]
  exact (Report.infix_intercalate hline).subset hc

theorem mem_border {left line right : Char} {ws : List Nat} (h : c ∈ border left line right ws) :
    c ∈ [left, line, right] := by
  simp only [border, List.cons_append, List.mem_cons, List.mem_append, List.not_mem_nil,
    or_false] at h ⊢
  refine h.imp_right fun h => h.imp_left fun h => ?_
  rcases mem_intercalate h with h | ⟨column, hcolumn, hc⟩
  · exact List.mem_singleton.1 h
  · obtain ⟨w, -, rfl⟩ := List.mem_map.1 hcolumn
    exact List.eq_of_mem_replicate hc

theorem mem_padTo {w : Nat} {s : List Char} (h : c ∈ padTo w s) : c = ' ' ∨ c ∈ s := by
  rw [padTo, List.mem_append, List.mem_replicate] at h
  exact h.symm.imp_left And.right

/-- **A line of a row** shows what stands in its cells. -/
theorem mem_rowLine {ws : List Nat} {cells : List (List Char)} (h : c ∈ rowLine ws cells) :
    c ∈ drawing ∨ ∃ cell ∈ cells, c ∈ cell := by
  have hbar : '│' ∈ drawing := by decide
  have hspace : ' ' ∈ drawing := by decide
  simp only [rowLine, List.cons_append, List.mem_cons, List.mem_append, List.not_mem_nil,
    or_false] at h
  rcases h with rfl | h | rfl
  · exact Or.inl hbar
  · rcases mem_intercalate h with h | ⟨piece, hpiece, hc⟩
    · exact Or.inl (List.mem_singleton.1 h ▸ hspace)
    · obtain ⟨i, hi⟩ := List.getElem?_of_mem hpiece
      obtain ⟨w, cell, -, hget, rfl⟩ := List.getElem?_zipWith_eq_some.1 hi
      have hcell : cell ∈ cells := List.mem_of_getElem? hget
      simp only [List.mem_cons, List.mem_append, List.not_mem_nil, or_false] at hc
      rcases hc with rfl | hc | rfl
      · exact Or.inl hspace
      · rcases mem_padTo hc with rfl | hc
        · exact Or.inl hspace
        · exact Or.inr ⟨cell, hcell, hc⟩
      · exact Or.inl hspace
  · exact Or.inl hbar

/-- **A row** shows what stands in its cells. -/
theorem mem_rowLines {ws : List Nat} {row : List String} {line : List Char}
    (hline : line ∈ rowLines ws row) (hc : c ∈ line) :
    c ∈ drawing ∨ ∃ cell ∈ row, c ∈ cell.toList := by
  obtain ⟨i, -, rfl⟩ := List.mem_map.1 hline
  refine (mem_rowLine hc).imp_right ?_
  rintro ⟨text, htext, hc⟩
  rw [List.map_map] at htext
  obtain ⟨cell, hcell, rfl⟩ := List.mem_map.1 htext
  refine ⟨cell, hcell, ?_⟩
  -- a cell that is not as high as the row has no more lines to show
  change c ∈ (cellLines cell).getD i [] at hc
  rw [List.getD_eq_getElem?_getD] at hc
  cases hget : (cellLines cell)[i]? with
  | none =>
    rw [hget] at hc
    exact absurd hc List.not_mem_nil
  | some line =>
    rw [hget] at hc
    exact mem_of_mem_cellLines (List.mem_of_getElem? hget) hc

/-- **A table** shows what stands in its cells, and what it is drawn with. -/
theorem mem_render {t : Table} (h : c ∈ t.render.toList) :
    c ∈ drawing ∨ (∃ cell ∈ t.header, c ∈ cell.toList) ∨
      ∃ row ∈ t.rows, ∃ cell ∈ row, c ∈ cell.toList := by
  have hfeed : '\n' ∈ drawing := by decide
  have htop : [('┌' : Char), '─', '┐'] ⊆ drawing := by decide
  have hmiddle : [('╞' : Char), '═', '╡'] ⊆ drawing := by decide
  have hbottom : [('└' : Char), '─', '┘'] ⊆ drawing := by decide
  simp only [render, String.toList_ofList] at h
  rcases mem_intercalate h with h | ⟨line, hline, hc⟩
  · exact Or.inl (List.mem_singleton.1 h ▸ hfeed)
  · simp only [List.mem_append, List.mem_singleton, List.mem_flatMap] at hline
    rcases hline with (((rfl | hline) | rfl) | ⟨row, hrow, hline⟩) | rfl
    · exact Or.inl (htop (mem_border hc))
    · exact (mem_rowLines hline hc).imp_right Or.inl
    · exact Or.inl (hmiddle (mem_border hc))
    · exact (mem_rowLines hline hc).imp_right fun h => Or.inr ⟨row, hrow, h⟩
    · exact Or.inl (hbottom (mem_border hc))

end Table

end InfraEvidence
