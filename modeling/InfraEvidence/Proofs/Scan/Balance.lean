/-
  InfraEvidence — the balance of braces over some lines.

  * `braceSum`: opening braces less closing ones over some lines;
  * `StaysOpen d ls`: with `d` braces open before the lines `ls`, at least one
    is open after every one of them;
  * `Closes d ls`: none is open after the last of the lines `ls`, and at least
    one after every other;
  * `closes_append`: lines close exactly if the first of them stay open and the
    others close from there;
  * `closes_of_level`: a brace opens, level lines follow, and it closes;
  * `staysOpen_or_closes`: lines stay open, or some of them, from the first
    one on, close.
-/
import InfraEvidence.Block.Scan
import InfraEvidence.Proofs.Text.Trim

namespace InfraEvidence

open Text

@[simp] theorem braceDelta_append (s t : List Char) :
    braceDelta (s ++ t) = braceDelta s + braceDelta t := by
  simp only [braceDelta, List.count_append, Int.natCast_add]
  omega

theorem braceDelta_eq_zero {l : List Char} (h : l.count '{' = l.count '}') : braceDelta l = 0 := by
  rw [braceDelta, h, Int.sub_self]

theorem braceDelta_trim (l : List Char) : braceDelta (trim l) = braceDelta l := by
  rw [braceDelta, braceDelta, count_trim (by decide), count_trim (by decide)]

/-- The number of opening braces of some lines less that of closing ones. -/
def braceSum : List (List Char) → Int
  | [] => 0
  | l :: ls => braceDelta l + braceSum ls

@[simp] theorem braceSum_nil : braceSum [] = 0 := rfl

@[simp] theorem braceSum_cons (l : List Char) (ls : List (List Char)) :
    braceSum (l :: ls) = braceDelta l + braceSum ls := rfl

@[simp] theorem braceSum_append (as bs : List (List Char)) :
    braceSum (as ++ bs) = braceSum as + braceSum bs := by
  induction as with
  | nil => simp
  | cons a as ih => rw [List.cons_append, braceSum_cons, braceSum_cons, ih, Int.add_assoc]

theorem braceSum_map {f : List Char → List Char} (h : ∀ l, braceDelta (f l) = braceDelta l)
    (ls : List (List Char)) : braceSum (ls.map f) = braceSum ls := by
  induction ls with
  | nil => rfl
  | cons l ls ih => rw [List.map_cons, braceSum_cons, braceSum_cons, h, ih]

/-- After every line at least one brace is open, where `d` were open before. -/
def StaysOpen (d : Int) (ls : List (List Char)) : Prop :=
  ∀ k, 0 < k → k ≤ ls.length → 0 < d + braceSum (ls.take k)

/-- After the last line no brace is open, and at least one is after every
    other line, where `d` were open before. -/
structure Closes (d : Int) (ls : List (List Char)) : Prop where
  ne_nil : ls ≠ []
  before : StaysOpen d ls.dropLast
  closed : d + braceSum ls ≤ 0

theorem staysOpen_nil (d : Int) : StaysOpen d [] := by
  intro k hk hl
  simp only [List.length_nil] at hl
  omega

theorem not_closes_nil {d : Int} : ¬ Closes d [] := fun h => h.ne_nil rfl

theorem staysOpen_cons {d : Int} {l : List Char} {ls : List (List Char)} :
    StaysOpen d (l :: ls) ↔ 0 < d + braceDelta l ∧ StaysOpen (d + braceDelta l) ls := by
  constructor
  · intro h
    refine ⟨by simpa using h 1 (by omega) (by simp), fun k hk hl => ?_⟩
    have := h (k + 1) (by omega) (by simpa using hl)
    rw [List.take_succ_cons, braceSum_cons] at this
    omega
  · rintro ⟨hd, h⟩ k hk hl
    obtain ⟨k, rfl⟩ : ∃ m, k = m + 1 := ⟨k - 1, by omega⟩
    rw [List.take_succ_cons, braceSum_cons]
    rcases Nat.eq_zero_or_pos k with rfl | hk
    · simpa using hd
    · have := h k hk (by simpa using hl)
      omega

theorem closes_singleton {d : Int} {l : List Char} : Closes d [l] ↔ d + braceDelta l ≤ 0 := by
  constructor
  · intro h
    simpa using h.closed
  · intro h
    exact ⟨by simp, staysOpen_nil d, by simpa using h⟩

theorem closes_cons_cons {d : Int} {l l' : List Char} {ls : List (List Char)} :
    Closes d (l :: l' :: ls) ↔ 0 < d + braceDelta l ∧ Closes (d + braceDelta l) (l' :: ls) := by
  constructor
  · intro h
    obtain ⟨hd, hb⟩ := staysOpen_cons.1 h.before
    refine ⟨hd, by simp, hb, ?_⟩
    have := h.closed
    rw [braceSum_cons] at this
    omega
  · rintro ⟨hd, h⟩
    refine ⟨by simp, staysOpen_cons.2 ⟨hd, h.before⟩, ?_⟩
    have := h.closed
    rw [braceSum_cons]
    omega

theorem closes_append {d : Int} {as bs : List (List Char)} (hbs : bs ≠ []) :
    Closes d (as ++ bs) ↔ StaysOpen d as ∧ Closes (d + braceSum as) bs := by
  induction as generalizing d with
  | nil => simp [staysOpen_nil]
  | cons a as ih =>
    obtain ⟨c, cs, hcs⟩ := List.exists_cons_of_ne_nil (List.append_ne_nil_of_right_ne_nil as hbs)
    rw [List.cons_append, hcs, closes_cons_cons, ← hcs, ih, staysOpen_cons, braceSum_cons,
      Int.add_assoc, and_assoc]

theorem Closes.open_before {d : Int} {ls : List (List Char)} (h : Closes d ls) {k : Nat}
    (hk : 0 < k) (hl : k < ls.length) : 0 < d + braceSum (ls.take k) := by
  have hb := h.before k hk (by rw [List.length_dropLast]; omega)
  rwa [List.dropLast_eq_take, List.take_take, Nat.min_eq_left (by omega)] at hb

theorem StaysOpen.mono {d e : Int} {ls : List (List Char)} (h : StaysOpen d ls) (hde : d ≤ e) :
    StaysOpen e ls := by
  intro k hk hl
  have := h k hk hl
  omega

theorem StaysOpen.pos {d : Int} {ls : List (List Char)} (h : StaysOpen d ls) (hls : ls ≠ []) :
    0 < d + braceSum ls := by
  have := h ls.length (List.length_pos_iff.2 hls) (Nat.le_refl _)
  rwa [List.take_length] at this

theorem StaysOpen.append {d : Int} {as bs : List (List Char)} (ha : StaysOpen d as)
    (hb : StaysOpen (d + braceSum as) bs) : StaysOpen d (as ++ bs) := by
  induction as generalizing d with
  | nil => simpa using hb
  | cons a as ih =>
    obtain ⟨hd, ha⟩ := staysOpen_cons.1 ha
    rw [braceSum_cons, ← Int.add_assoc] at hb
    exact staysOpen_cons.2 ⟨hd, ih ha hb⟩

/-! ## Lines that keep their braces balanced -/

theorem braceSum_of_level {ls : List (List Char)} (h : ∀ l ∈ ls, braceDelta l = 0) :
    braceSum ls = 0 := by
  induction ls with
  | nil => rfl
  | cons l ls ih =>
    rw [braceSum_cons, h l (by simp), ih fun x hx => h x (by simp [hx])]
    rfl

theorem staysOpen_of_level {d : Int} {ls : List (List Char)} (hd : 0 < d)
    (h : ∀ l ∈ ls, braceDelta l = 0) : StaysOpen d ls := by
  induction ls with
  | nil => exact staysOpen_nil d
  | cons l ls ih =>
    refine staysOpen_cons.2 ?_
    rw [h l (by simp), Int.add_zero]
    exact ⟨hd, ih fun x hx => h x (by simp [hx])⟩

theorem StaysOpen.cons_level {d : Int} {l : List Char} {ls : List (List Char)}
    (h : StaysOpen d ls) (hd : 0 < d) (hl : braceDelta l = 0) : StaysOpen d (l :: ls) := by
  rw [staysOpen_cons, hl, Int.add_zero]
  exact ⟨hd, h⟩

theorem Closes.cons_level {d : Int} {l : List Char} {ls : List (List Char)} (h : Closes d ls)
    (hd : 0 < d) (hl : braceDelta l = 0) : Closes d (l :: ls) := by
  obtain ⟨l', ls, rfl⟩ := List.exists_cons_of_ne_nil h.ne_nil
  rw [closes_cons_cons, hl, Int.add_zero]
  exact ⟨hd, h⟩

/-- An opening brace, lines that keep their braces balanced, a closing one. -/
theorem closes_of_level {l l' : List Char} {ls : List (List Char)} (hl : braceDelta l = 1)
    (hls : ∀ x ∈ ls, braceDelta x = 0) (hl' : braceDelta l' = -1) :
    Closes 0 (l :: (ls ++ [l'])) where
  ne_nil := List.cons_ne_nil _ _
  before := by
    rw [← List.cons_append, List.dropLast_concat]
    refine staysOpen_cons.2 ?_
    rw [hl]
    exact ⟨by decide, staysOpen_of_level (by decide) hls⟩
  closed := by
    rw [braceSum_cons, braceSum_append, braceSum_of_level hls, braceSum_cons, hl, hl',
      braceSum_nil]
    decide

/-! ## Where lines close -/

/-- **Lines stay open, or they close at one of them.** -/
theorem staysOpen_or_closes (d : Int) (ls : List (List Char)) :
    StaysOpen d ls ∨ ∃ as bs, ls = as ++ bs ∧ Closes d as := by
  induction ls generalizing d with
  | nil => exact Or.inl (staysOpen_nil d)
  | cons l ls ih =>
    by_cases hd : 0 < d + braceDelta l
    · rcases ih (d + braceDelta l) with h | ⟨as, bs, rfl, h⟩
      · exact Or.inl (staysOpen_cons.2 ⟨hd, h⟩)
      · refine Or.inr ⟨l :: as, bs, rfl, ?_⟩
        cases as with
        | nil => exact absurd h not_closes_nil
        | cons a as => exact closes_cons_cons.2 ⟨hd, h⟩
    · exact Or.inr ⟨[l], ls, rfl, closes_singleton.2 (by omega)⟩

end InfraEvidence
