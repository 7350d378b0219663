/-
  InfraEvidence — how a text is laid out for the scanner.

  Any lines are, one after the other, lines that open no block, lines that are
  a block, and at last, perhaps, an opening that is never closed.

  * `BlockScanner.Layout`: such lines; `layout`: all lines are;
  * `run_layout_skip`, `run_layout_block`: the run over the two repeated parts;
  * `mem_run`: the blocks of a run are the blocks of the layout;
  * `run_bounds`, `run_pairwise`: their lines follow each other;
  * `run_covered`: outside of blocks at the end, every opening lies in a block;
  * `exists_tail`: what is left open at the end begins at one opening.
-/
import InfraEvidence.Proofs.Scan.Run

namespace InfraEvidence

open Text

namespace BlockScanner

/-- Lines that open no block, blocks, and perhaps an opening left open. -/
inductive Layout (sc : BlockScanner) : List (List Char) → Prop
  | nil : Layout sc []
  | skip {l ls} : sc.open? l = none → Layout sc ls → Layout sc (l :: ls)
  | block {l o body rest} : sc.open? l = some o → Closes 0 (l :: body) → Layout sc rest →
      Layout sc (l :: body ++ rest)
  | tail {l o body} : sc.open? l = some o → StaysOpen 0 (l :: body) → Layout sc (l :: body)

/-- **All lines are laid out so.** -/
theorem layout (sc : BlockScanner) (ls : List (List Char)) : Layout sc ls := by
  induction hn : ls.length using Nat.strongRecOn generalizing ls with
  | ind n ih =>
  subst hn
  cases ls with
  | nil => exact .nil
  | cons l ls =>
    cases ho : sc.open? l with
    | none => exact .skip ho (ih ls.length (by simp) ls rfl)
    | some o =>
      rcases staysOpen_or_closes 0 (l :: ls) with h | ⟨as, bs, he, h⟩
      · exact .tail ho h
      · cases as with
        | nil => exact absurd h not_closes_nil
        | cons a as =>
          simp only [List.cons_append, List.cons.injEq] at he
          obtain ⟨rfl, rfl⟩ := he
          refine .block ho h (ih bs.length ?_ bs rfl)
          rw [List.length_cons, List.length_append]
          omega

variable {sc : BlockScanner} {file : String}

theorem run_layout_skip {l : List Char} (h : sc.open? l = none) (n : Nat) (ls : List (List Char)) :
    sc.run file n .seeking (l :: ls) = sc.run file (n + 1) .seeking ls := by
  rw [run_cons, step_skip h]
  rfl

theorem run_layout_block {l : List Char} {o : Opening} {body : List (List Char)}
    (ho : sc.open? l = some o) (h : Closes 0 (l :: body)) (n : Nat) (rest : List (List Char)) :
    sc.run file n .seeking (l :: body ++ rest) =
      ((sc.run file (n + (l :: body).length) .seeking rest).1,
        sc.finished file o n (l :: body) ::
          (sc.run file (n + (l :: body).length) .seeking rest).2) := by
  rw [run_append, run_finished ho h]
  rfl

/-! ## The blocks of a run -/

/-- **A run finds the blocks of the layout**: each is an opening line with the
    lines up to the one that closes it. -/
theorem mem_run {n : Nat} {ls : List (List Char)} {b : Block}
    (hb : b ∈ (sc.run file n .seeking ls).2) :
    ∃ before l o body after, ls = before ++ (l :: body) ++ after ∧ sc.open? l = some o ∧
      Closes 0 (l :: body) ∧ b = sc.finished file o (n + before.length) (l :: body) := by
  have hl := layout sc ls
  induction hl generalizing n with
  | nil => simp at hb
  | @skip l ls h _ ih =>
    rw [run_layout_skip h] at hb
    obtain ⟨before, l', o, body, after, rfl, ho, hc, rfl⟩ := ih hb
    refine ⟨l :: before, l', o, body, after, rfl, ho, hc, ?_⟩
    rw [List.length_cons, show n + 1 + before.length = n + (before.length + 1) by omega]
  | @block l o body rest ho hc _ ih =>
    rw [run_layout_block ho hc] at hb
    rcases List.mem_cons.1 hb with rfl | hb
    · exact ⟨[], l, o, body, rest, rfl, ho, hc, rfl⟩
    · obtain ⟨before, l', o', body', after, rfl, ho', hc', rfl⟩ := ih hb
      refine ⟨l :: body ++ before, l', o', body', after, by simp, ho', hc', ?_⟩
      rw [List.length_append, ← Nat.add_assoc]
  | tail ho h =>
    rw [run_pending ho h] at hb
    simp at hb

theorem run_bounds {n : Nat} {ls : List (List Char)} {b : Block}
    (hb : b ∈ (sc.run file n .seeking ls).2) :
    n ≤ b.firstLine ∧ b.firstLine ≤ b.lastLine ∧ b.lastLine < n + ls.length := by
  obtain ⟨before, l, o, body, after, rfl, -, -, rfl⟩ := mem_run hb
  simp only [finished, record, List.length_append, List.length_cons]
  omega

/-- **A block begins after the one before it has ended.** -/
theorem run_pairwise (n : Nat) (ls : List (List Char)) :
    (sc.run file n .seeking ls).2.Pairwise fun a b => a.lastLine < b.firstLine := by
  have hl := layout sc ls
  induction hl generalizing n with
  | nil => exact .nil
  | skip h _ ih => rw [run_layout_skip h]; exact ih (n + 1)
  | block ho hc _ ih =>
    rw [run_layout_block ho hc]
    refine List.pairwise_cons.2 ⟨fun b hb => ?_, ih _⟩
    have := (run_bounds hb).1
    simp only [finished, record, List.length_cons] at this ⊢
    omega
  | tail ho h => rw [run_pending ho h]; exact .nil

/-! ## The openings of a run -/

/-- **Outside of blocks at the end, every opening lies in a block.** -/
theorem run_covered {n i : Nat} {ls : List (List Char)} {l : List Char} {o : Opening}
    (hend : (sc.run file n .seeking ls).1 = .seeking) (hi : ls[i]? = some l)
    (ho : sc.open? l = some o) :
    ∃ b ∈ (sc.run file n .seeking ls).2, b.firstLine ≤ n + i ∧ n + i ≤ b.lastLine := by
  have hl := layout sc ls
  induction hl generalizing n i with
  | nil => simp at hi
  | @skip l' ls h _ ih =>
    rw [run_layout_skip h] at hend ⊢
    cases i with
    | zero =>
      simp only [List.getElem?_cons_zero, Option.some.injEq] at hi
      rw [hi, ho] at h
      contradiction
    | succ i =>
      obtain ⟨b, hb, h1, h2⟩ := ih hend hi
      exact ⟨b, hb, by omega, by omega⟩
  | @block l' o' body rest ho' hc _ ih =>
    rw [run_layout_block ho' hc] at hend ⊢
    by_cases hlt : i < (l' :: body).length
    · refine ⟨_, List.mem_cons_self, by simp [finished, record], ?_⟩
      simp only [finished, record, List.length_cons] at hlt ⊢
      omega
    · rw [List.getElem?_append_right (by omega)] at hi
      obtain ⟨b, hb, h1, h2⟩ := ih hend hi
      exact ⟨b, List.mem_cons_of_mem _ hb, by omega, by omega⟩
  | tail ho' h =>
    rw [run_pending ho' h] at hend
    contradiction

/-- Lines that begin with an opening and are never closed. -/
def LeftOpen (sc : BlockScanner) (ls : List (List Char)) : Prop :=
  ∃ l o body, ls = l :: body ∧ sc.open? l = some o ∧ StaysOpen 0 (l :: body)

/-- **What is left open begins at one opening**; up to there the run ends
    outside of blocks, and from there on it finds none. -/
theorem exists_tail (sc : BlockScanner) (ls : List (List Char)) :
    ∃ as tail, ls = as ++ tail ∧ (∀ file n, (sc.run file n .seeking as).1 = .seeking) ∧
      (tail = [] ∨ sc.LeftOpen tail) := by
  have hl := layout sc ls
  induction hl with
  | nil => exact ⟨[], [], rfl, fun _ _ => rfl, Or.inl rfl⟩
  | @skip l ls h _ ih =>
    obtain ⟨as, tail, rfl, hend, ht⟩ := ih
    refine ⟨l :: as, tail, rfl, fun file n => ?_, ht⟩
    rw [run_layout_skip h]
    exact hend file (n + 1)
  | @block l o body rest ho hc _ ih =>
    obtain ⟨as, tail, rfl, hend, ht⟩ := ih
    refine ⟨l :: body ++ as, tail, by simp, fun file n => ?_, ht⟩
    rw [run_layout_block ho hc]
    exact hend file _
  | @tail l o body ho h => exact ⟨[], l :: body, rfl, fun _ _ => rfl, Or.inr ⟨l, o, body, rfl, ho, h⟩⟩

theorem LeftOpen.run_eq_nil {ls : List (List Char)} (h : sc.LeftOpen ls) (n : Nat) :
    (sc.run file n .seeking ls).2 = [] := by
  obtain ⟨l, o, body, rfl, ho, h⟩ := h
  rw [run_pending ho h]

end BlockScanner

end InfraEvidence
