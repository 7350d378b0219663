/-
  InfraEvidence — which lines of a text are blocks.

  * `Text.slice`: the lines from one number to another;
  * `BlockScanner.OpensAt`: the line with a number opens a block;
  * `BlockScanner.Delimits`: the lines from one number to another are a block:
    the first one opens it, and the last one is the first after which no brace
    is open;
  * `scan_exact`: the blocks of a scan are delimited so, follow each other, and
    leave out no opening but those after one that is never closed.
-/
import InfraEvidence.Proofs.Scan.Layout

namespace InfraEvidence

namespace Text

/-- The lines from number `i` to number `j`, counted from 1. -/
def slice {α : Type} (ls : List α) (i j : Nat) : List α := (ls.take j).drop (i - 1)

theorem slice_append {α : Type} (as bs cs : List α) {k : Nat} (hk : k ≤ bs.length) :
    slice (as ++ bs ++ cs) (as.length + 1) (as.length + k) = bs.take k := by
  unfold slice
  rw [List.append_assoc, List.take_length_add_append, Nat.add_sub_cancel, List.drop_left,
    List.take_append_of_le_length hk]

end Text

open Text

namespace BlockScanner

/-- The line with the number `i` opens a block. -/
def OpensAt (sc : BlockScanner) (ls : List (List Char)) (i : Nat) : Prop :=
  0 < i ∧ ∃ l o, ls[i - 1]? = some l ∧ sc.open? l = some o

instance (sc : BlockScanner) (ls : List (List Char)) (i : Nat) : Decidable (sc.OpensAt ls i) :=
  decidable_of_iff (0 < i ∧ (ls[i - 1]?.bind sc.open?).isSome) <| by
    simp [OpensAt, Option.isSome_iff_exists, Option.bind_eq_some_iff]
    grind

/-- The lines from number `i` to number `j` are a block: the first one opens
    it, and braces are open after every line but the last. -/
structure Delimits (sc : BlockScanner) (ls : List (List Char)) (i j : Nat) : Prop where
  first_le : i ≤ j
  last_le : j ≤ ls.length
  opens : sc.OpensAt ls i
  open_before : ∀ k, i ≤ k → k < j → 0 < braceSum (slice ls i k)
  closed : braceSum (slice ls i j) ≤ 0

/-- The lines from number `i` to the end begin with an opening, and braces are
    open after every one of them. -/
structure OpenFrom (sc : BlockScanner) (ls : List (List Char)) (i : Nat) : Prop where
  opens : sc.OpensAt ls i
  stays : ∀ k, i ≤ k → k ≤ ls.length → 0 < braceSum (slice ls i k)

variable {sc : BlockScanner}

theorem opensAt_append {before body after : List (List Char)} {l : List Char} {o : Opening}
    (ho : sc.open? l = some o) :
    sc.OpensAt (before ++ (l :: body) ++ after) (before.length + 1) := by
  refine ⟨by omega, l, o, ?_, ho⟩
  simp

theorem delimits_of_closes {before body after : List (List Char)} {l : List Char} {o : Opening}
    (ho : sc.open? l = some o) (h : Closes 0 (l :: body)) :
    sc.Delimits (before ++ (l :: body) ++ after) (before.length + 1)
      (before.length + (l :: body).length) where
  first_le := by
    rw [List.length_cons]
    omega
  last_le := by
    rw [List.length_append, List.length_append]
    omega
  opens := opensAt_append ho
  open_before := by
    intro k hk hlt
    obtain ⟨m, rfl⟩ : ∃ m, k = before.length + m := ⟨k - before.length, by omega⟩
    rw [slice_append _ _ _ (by omega)]
    have := h.open_before (k := m) (by omega) (by omega)
    omega
  closed := by
    rw [slice_append _ _ _ (Nat.le_refl _), List.take_length]
    have := h.closed
    omega

theorem LeftOpen.openFrom {before tail : List (List Char)} (h : sc.LeftOpen tail) :
    sc.OpenFrom (before ++ tail) (before.length + 1) := by
  obtain ⟨l, o, body, rfl, ho, h⟩ := h
  refine ⟨⟨by omega, l, o, by simp, ho⟩, fun k hk hle => ?_⟩
  obtain ⟨m, rfl⟩ : ∃ m, k = before.length + m := ⟨k - before.length, by omega⟩
  rw [List.length_append] at hle
  have hs := slice_append before (l :: body) [] (k := m) (by omega)
  rw [List.append_nil] at hs
  rw [hs]
  have := h m (by omega) (by omega)
  omega

/-- A finished block stands where its lines stand, and has their text. -/
theorem finished_delimits (file : String) {before body after : List (List Char)} {l : List Char}
    {o : Opening} (ho : sc.open? l = some o) (h : Closes 0 (l :: body)) :
    let ls := before ++ (l :: body) ++ after
    let b := sc.finished file o (1 + before.length) (l :: body)
    sc.Delimits ls b.firstLine b.lastLine ∧
      b.rawText = String.ofList (unlines (slice ls b.firstLine b.lastLine)) := by
  intro ls b
  have hf : b.firstLine = before.length + 1 := Nat.add_comm _ _
  have hl : b.lastLine = before.length + (l :: body).length := by
    simp only [b, finished, record, List.length_cons]
    omega
  rw [hf, hl, slice_append _ _ _ (Nat.le_refl _), List.take_length]
  exact ⟨delimits_of_closes ho h, rfl⟩

/-- **The blocks of a text are exactly its delimited lines.**  Each block is
    delimited and has the text of its lines; the blocks follow each other; and
    every opening lies in a block, or at or after an opening that comes after
    all blocks and stays open up to the end. -/
theorem scan_exact (sc : BlockScanner) (file text : String) :
    let ls := lines text.toList
    (∀ b ∈ sc.scan file text, sc.Delimits ls b.firstLine b.lastLine ∧
      b.rawText = String.ofList (unlines (slice ls b.firstLine b.lastLine))) ∧
    (sc.scan file text).Pairwise (fun a b => a.lastLine < b.firstLine) ∧
    ∀ i, sc.OpensAt ls i →
      (∃ b ∈ sc.scan file text, b.firstLine ≤ i ∧ i ≤ b.lastLine) ∨
      ∃ p ≤ i, sc.OpenFrom ls p ∧ ∀ b ∈ sc.scan file text, b.lastLine < p := by
  intro ls
  rw [scan_eq_run]
  refine ⟨fun b hb => ?_, run_pairwise 1 ls, fun i hi => ?_⟩
  · obtain ⟨before, l, o, body, after, he, ho, hc, rfl⟩ := mem_run hb
    rw [show ls = _ from he]
    exact finished_delimits file ho hc
  · obtain ⟨as, tail, he, hend, htail⟩ := exists_tail sc ls
    obtain ⟨hpos, l, o, hl, ho⟩ := hi
    have hrun : (sc.run file 1 .seeking ls).2 = (sc.run file 1 .seeking as).2 := by
      rw [he, run_append, hend]
      rcases htail with rfl | ht
      · simp
      · rw [ht.run_eq_nil, List.append_nil]
    rw [show lines text.toList = ls from rfl, hrun]
    by_cases hlt : i - 1 < as.length
    · -- before the tail every opening lies in a block
      rw [he, List.getElem?_append_left hlt] at hl
      obtain ⟨b, hb, h1, h2⟩ := run_covered (hend file 1) hl ho
      exact Or.inl ⟨b, hb, by omega, by omega⟩
    · right
      rcases htail with rfl | ht
      · rw [he, List.append_nil, List.getElem?_eq_none (by omega)] at hl
        contradiction
      · refine ⟨as.length + 1, by omega, he ▸ ht.openFrom, fun b hb => ?_⟩
        have := (run_bounds hb).2.2
        omega

end BlockScanner

end InfraEvidence
