/-
  InfraEvidence — runs of the scanner.

  * `BlockScanner.run`: the state after some lines, and the blocks that they
    complete; `scanFrom_eq_run` ties it to the scan;
  * `step_skip` … `step_close`: everything that one line can do;
  * `run_append`: a run over lines is a run over the first of them, then one
    over the others;
  * `pending`, `finished`: the block that is open after some lines, and the
    one that they are;
  * `run_pending`, `run_finished`: from an opening on, the lines that stay open
    leave the one, the lines that close complete the other.
-/
import InfraEvidence.Proofs.Block.Record
import InfraEvidence.Proofs.Scan.Balance

namespace InfraEvidence

open Text

namespace BlockScanner

/-- The state after some lines, the first of which has the number `n`, and the
    blocks that they complete. -/
def run (sc : BlockScanner) (file : String) : Nat → State → List (List Char) → State × List Block
  | _, st, [] => (st, [])
  | n, st, line :: rest =>
    let after := run sc file (n + 1) (sc.step file n line st).1 rest
    (after.1, (sc.step file n line st).2.toList ++ after.2)

variable {sc : BlockScanner} {file : String}

theorem scanFrom_eq_run (n : Nat) (st : State) (ls : List (List Char)) :
    sc.scanFrom file n st ls = (sc.run file n st ls).2 := by
  induction ls generalizing n st with
  | nil => rfl
  | cons l ls ih =>
    simp only [scanFrom, run]
    rw [ih]

/-- A scan is a run from the first line on that begins outside of blocks. -/
theorem scan_eq_run (text : String) :
    sc.scan file text = (sc.run file 1 .seeking (lines text.toList)).2 :=
  scanFrom_eq_run 1 .seeking _

/-! ## One line -/

theorem step_skip {n : Nat} {l : List Char} (h : sc.open? l = none) :
    sc.step file n l .seeking = (.seeking, none) := by
  simp [step, h]

theorem step_open {n : Nat} {l : List Char} {o : Opening} (h : sc.open? l = some o)
    (hd : 0 < braceDelta l) :
    sc.step file n l .seeking = (.inside (sc.record file o n n [] [l]) (braceDelta l), none) := by
  simp [step, h, hd, addText_begin]

theorem step_oneLine {n : Nat} {l : List Char} {o : Opening} (h : sc.open? l = some o)
    (hd : braceDelta l ≤ 0) :
    sc.step file n l .seeking =
      (.seeking, some (sc.record file o n n ((betweenBraces? l).toList.map trim) [l])) := by
  have hd' : ¬ 0 < braceDelta l := by omega
  simp [step, h, hd', oneLine_record]

theorem step_inside {n : Nat} {l : List Char} {b : Block} {d : Int}
    (hd : 0 < d + braceDelta l) :
    sc.step file n l (.inside b d) = (.inside (absorb b l) (d + braceDelta l), none) := by
  simp [step, hd, absorb]

theorem step_close {n : Nat} {l : List Char} {b : Block} {d : Int}
    (hd : d + braceDelta l ≤ 0) :
    sc.step file n l (.inside b d) = (.seeking, some { absorb b l with lastLine := n }) := by
  have hd' : ¬ 0 < d + braceDelta l := by omega
  simp [step, hd', absorb]

/-! ## Several lines -/

@[simp] theorem run_nil (n : Nat) (st : State) : sc.run file n st [] = (st, []) := rfl

theorem run_cons (n : Nat) (st : State) (l : List Char) (ls : List (List Char)) :
    sc.run file n st (l :: ls) =
      ((sc.run file (n + 1) (sc.step file n l st).1 ls).1,
        (sc.step file n l st).2.toList ++ (sc.run file (n + 1) (sc.step file n l st).1 ls).2) :=
  rfl

/-- **A run over lines goes over the first ones, then over the others**; its
    state is all that the others see of the first ones. -/
theorem run_append (n : Nat) (st : State) (as bs : List (List Char)) :
    sc.run file n st (as ++ bs) =
      ((sc.run file (n + as.length) (sc.run file n st as).1 bs).1,
        (sc.run file n st as).2 ++ (sc.run file (n + as.length) (sc.run file n st as).1 bs).2) := by
  induction as generalizing n st with
  | nil => simp
  | cons a as ih =>
    have hn : n + (a :: as).length = n + 1 + as.length := by
      rw [List.length_cons]
      omega
    rw [List.cons_append, run_cons, run_cons, ih, hn, List.append_assoc]

theorem run_skip {ls : List (List Char)} (h : ∀ l ∈ ls, sc.open? l = none) (n : Nat) :
    sc.run file n .seeking ls = (.seeking, []) := by
  induction ls generalizing n with
  | nil => rfl
  | cons l ls ih =>
    rw [run_cons, step_skip (h l (by simp)), ih fun x hx => h x (by simp [hx])]
    rfl

/-! ## From an opening on -/

/-- The trimmed lines that a block gets its settings from: all but the first,
    or what stands between the braces of its only line. -/
def bodyOf : List (List Char) → List (List Char)
  | [line] => (betweenBraces? line).toList.map trim
  | span => span.tail.map trim

theorem bodyOf_cons {ls : List (List Char)} (h : ls ≠ []) (l : List Char) :
    bodyOf (l :: ls) = ls.map trim := by
  cases ls with
  | nil => contradiction
  | cons l' ls => rfl

/-- The block that is open after the lines `span`, the first of which has the
    number `n` and opens it. -/
def pending (sc : BlockScanner) (file : String) (o : Opening) (n : Nat)
    (span : List (List Char)) : Block :=
  sc.record file o n n (span.tail.map trim) span

/-- The block that the lines `span` are, the first of which has the number `n`
    and opens it. -/
def finished (sc : BlockScanner) (file : String) (o : Opening) (n : Nat)
    (span : List (List Char)) : Block :=
  sc.record file o n (n + (span.length - 1)) (bodyOf span) span

variable {o : Opening}

theorem absorb_pending {n : Nat} {span : List (List Char)} (h : span ≠ []) (l : List Char) :
    absorb (sc.pending file o n span) l = sc.pending file o n (span ++ [l]) := by
  unfold pending
  rw [absorb_record, List.tail_append_of_ne_nil h, List.map_append, List.map_singleton]

theorem close_pending {n : Nat} {span : List (List Char)} (h : span ≠ []) (l : List Char) :
    { absorb (sc.pending file o n span) l with lastLine := n + span.length } =
      sc.finished file o n (span ++ [l]) := by
  rw [absorb_pending h]
  obtain ⟨a, as, rfl⟩ := List.exists_cons_of_ne_nil h
  cases as <;> simp [pending, finished, record, bodyOf]

theorem run_pending_append {n : Nat} {span ls : List (List Char)} {d : Int} (hs : span ≠ [])
    (h : StaysOpen d ls) :
    sc.run file (n + span.length) (.inside (sc.pending file o n span) d) ls =
      (.inside (sc.pending file o n (span ++ ls)) (d + braceSum ls), []) := by
  induction ls generalizing span d with
  | nil => simp
  | cons l ls ih =>
    obtain ⟨hd, h⟩ := staysOpen_cons.1 h
    have hl : n + span.length + 1 = n + (span ++ [l]).length := by
      rw [List.length_append, List.length_singleton]
      omega
    rw [run_cons, step_inside hd, absorb_pending hs, hl, ih (by simp) h, List.append_assoc]
    simp [Int.add_assoc]

theorem run_finished_append {n : Nat} {span ls : List (List Char)} {d : Int} (hs : span ≠ [])
    (h : Closes d ls) :
    sc.run file (n + span.length) (.inside (sc.pending file o n span) d) ls =
      (.seeking, [sc.finished file o n (span ++ ls)]) := by
  induction ls generalizing span d with
  | nil => exact absurd h not_closes_nil
  | cons l ls ih =>
    cases ls with
    | nil => rw [run_cons, step_close (closes_singleton.1 h), close_pending hs]; rfl
    | cons l' ls =>
      obtain ⟨hd, h⟩ := closes_cons_cons.1 h
      have hl : n + span.length + 1 = n + (span ++ [l]).length := by
        rw [List.length_append, List.length_singleton]
        omega
      rw [run_cons, step_inside hd, absorb_pending hs, hl, ih (by simp) h, List.append_assoc]
      rfl

/-- **An opening whose lines stay open** leaves its block open. -/
theorem run_pending {n : Nat} {l : List Char} {ls : List (List Char)} (ho : sc.open? l = some o)
    (h : StaysOpen 0 (l :: ls)) :
    sc.run file n .seeking (l :: ls) =
      (.inside (sc.pending file o n (l :: ls)) (braceSum (l :: ls)), []) := by
  obtain ⟨hd, h⟩ := staysOpen_cons.1 h
  rw [Int.zero_add] at hd h
  rw [run_cons, step_open ho hd, show sc.record file o n n [] [l] = sc.pending file o n [l] from rfl,
    show n + 1 = n + [l].length from rfl, run_pending_append (by simp) h, braceSum_cons]
  rfl

/-- **An opening whose lines close** is a block. -/
theorem run_finished {n : Nat} {l : List Char} {ls : List (List Char)} (ho : sc.open? l = some o)
    (h : Closes 0 (l :: ls)) :
    sc.run file n .seeking (l :: ls) = (.seeking, [sc.finished file o n (l :: ls)]) := by
  cases ls with
  | nil =>
    have hd := closes_singleton.1 h
    rw [Int.zero_add] at hd
    rw [run_cons, step_oneLine ho hd]
    rfl
  | cons l' ls =>
    obtain ⟨hd, h⟩ := closes_cons_cons.1 h
    rw [Int.zero_add] at hd h
    rw [run_cons, step_open ho hd, show sc.record file o n n [] [l] = sc.pending file o n [l] from rfl,
      show n + 1 = n + [l].length from rfl, run_finished_append (by simp) h]
    rfl

end BlockScanner

end InfraEvidence
