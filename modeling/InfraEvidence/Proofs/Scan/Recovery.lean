/-
  InfraEvidence — blocks after one that is never closed.

  A text is taken here as chunks of lines, each of them a block (`Whole`) or
  an opening that is never closed (`Broken`).

  * `apart`: the blocks that the chunks are, each scanned by itself;
  * `leftOver`: the braces that some chunks leave open;
  * `State.Owes`: a scan stands after a chunk with that many braces open;
  * `recovers_iff`: a whole chunk is found exactly if the chunks before it
    leave no brace open, and all whole chunks are found exactly if none of
    them comes after a broken one;
  * `broken_hides_block`: a broken chunk hides the whole one after it.
-/
import InfraEvidence.Proofs.Scan.Narrowing

namespace InfraEvidence

open Text

namespace BlockScanner

variable {sc : BlockScanner} {file : String}

/-- Scanned by themselves, the lines are one block, from the first to the last. -/
def Whole (sc : BlockScanner) (file : String) (ls : List (List Char)) : Prop :=
  (sc.scanLines file ls).map (fun b => (b.firstLine, b.lastLine)) = [(1, ls.length)]

instance (ls : List (List Char)) : Decidable (sc.Whole file ls) :=
  inferInstanceAs (Decidable (_ = _))

/-- The first line opens a block, no other line does, and braces are open after
    every one of them. -/
def Broken (sc : BlockScanner) (ls : List (List Char)) : Prop :=
  ∃ l o body, ls = l :: body ∧ sc.open? l = some o ∧ (∀ x ∈ body, sc.open? x = none) ∧
    StaysOpen 0 (l :: body)

/-- The blocks of some chunks, each scanned by itself where it stands; the
    first line of the first chunk has the number `n`. -/
def apart (sc : BlockScanner) (file : String) : Nat → List (List (List Char)) → List Block
  | _, [] => []
  | n, c :: cs => sc.scanFrom file n .seeking c ++ apart sc file (n + c.length) cs

/-- The number of braces that some chunks leave open, with `d` open before. -/
def leftOver (d : Int) (cs : List (List (List Char))) : Int :=
  cs.foldl (fun d c => max 0 (d + braceSum c)) d

/-! ## Chunks -/

theorem whole_iff {ls : List (List Char)} :
    sc.Whole file ls ↔ ∃ l o body, ls = l :: body ∧ sc.open? l = some o ∧ Closes 0 (l :: body) := by
  unfold Whole scanLines
  rw [scanFrom_eq_run]
  constructor
  · intro h
    obtain ⟨b, hb, he⟩ := List.map_eq_singleton_iff.1 h
    obtain ⟨before, l, o, body, after, rfl, ho, hc, rfl⟩ := mem_run (hb ▸ List.mem_singleton_self b)
    simp only [finished, record, Prod.mk.injEq, List.length_append, List.length_cons] at he
    obtain rfl : before = [] := List.length_eq_zero_iff.1 (by omega)
    obtain rfl : after = [] := List.length_eq_zero_iff.1 (by simp at he; omega)
    exact ⟨l, o, body, by simp, ho, hc⟩
  · rintro ⟨l, o, body, rfl, ho, hc⟩
    rw [run_finished ho hc]
    simp [finished, record, Nat.add_comm]

theorem Whole.braceSum_le {ls : List (List Char)} (h : sc.Whole file ls) : braceSum ls ≤ 0 := by
  obtain ⟨l, o, body, rfl, -, hc⟩ := whole_iff.1 h
  have := hc.closed
  omega

theorem Broken.braceSum_pos {ls : List (List Char)} (h : sc.Broken ls) : 0 < braceSum ls := by
  obtain ⟨l, o, body, rfl, -, -, hs⟩ := h
  have := hs.pos (by simp)
  omega

/-- A chunk that is scanned with braces open before stays open, or it closes on
    its last line. -/
theorem staysOpen_or_closes_chunk {d : Int} {c : List (List Char)} (hd : 0 < d)
    (h : sc.Whole file c ∨ sc.Broken c) : StaysOpen d c ∨ Closes d c := by
  rcases h with h | ⟨l, o, body, rfl, -, -, hs⟩
  · obtain ⟨l, o, body, rfl, -, hc⟩ := whole_iff.1 h
    have hb : StaysOpen d (l :: body).dropLast := hc.before.mono (by omega)
    by_cases hsum : d + braceSum (l :: body) ≤ 0
    · exact Or.inr ⟨by simp, hb, hsum⟩
    · refine Or.inl fun k hk hl => ?_
      rcases Nat.lt_or_eq_of_le hl with hlt | rfl
      · have := hc.open_before hk hlt
        omega
      · rw [List.take_length]
        omega
  · exact Or.inl (hs.mono (by omega))

/-! ## The state after some chunks -/

/-- A scan that stands before line `n` with `d` braces open. -/
def State.Owes (sc : BlockScanner) (file : String) (n : Nat) (d : Int) : State → Prop
  | .seeking => d = 0
  | .inside b e => e = d ∧ 0 < d ∧
      ∃ o first span, span ≠ [] ∧ n = first + span.length ∧ b = sc.pending file o first span

theorem State.Owes.run {n : Nat} {d : Int} {st : State} {c : List (List Char)}
    (hst : st.Owes sc file n d) (hc : sc.Whole file c ∨ sc.Broken c) :
    (sc.run file n st c).1.Owes sc file (n + c.length) (max 0 (d + braceSum c)) := by
  cases st with
  | seeking =>
    obtain rfl : d = 0 := hst
    rcases hc with hc | ⟨l, o, body, rfl, ho, -, hs⟩
    · have hle := hc.braceSum_le
      obtain ⟨l, o, body, rfl, ho, hc⟩ := whole_iff.1 hc
      rw [run_finished ho hc]
      show max 0 (0 + braceSum (l :: body)) = 0
      omega
    · have hpos := hs.pos (by simp)
      rw [run_pending ho hs]
      refine ⟨by omega, by omega, o, n, l :: body, by simp, rfl, rfl⟩
  | inside b e =>
    obtain ⟨rfl, hd, o, first, span, hspan, rfl, rfl⟩ := hst
    rcases staysOpen_or_closes_chunk hd hc with hs | hcl
    · rw [run_pending_append hspan hs]
      have hpos : 0 < e + braceSum c := by
        cases c with
        | nil => simpa using hd
        | cons l ls => exact hs.pos (by simp)
      refine ⟨by omega, by omega, o, first, span ++ c, by simp [hspan], ?_, rfl⟩
      rw [List.length_append, Nat.add_assoc]
    · rw [run_finished_append hspan hcl]
      have := hcl.closed
      show max 0 (e + braceSum c) = 0
      omega

theorem State.Owes.run_chunks {n : Nat} {d : Int} {st : State} {cs : List (List (List Char))}
    (hst : st.Owes sc file n d) (hcs : ∀ c ∈ cs, sc.Whole file c ∨ sc.Broken c) :
    (sc.run file n st cs.flatten).1.Owes sc file (n + cs.flatten.length) (leftOver d cs) := by
  induction cs generalizing n d st with
  | nil => simpa [leftOver] using hst
  | cons c cs ih =>
    rw [List.flatten_cons, run_append, List.length_append, ← Nat.add_assoc]
    exact ih (hst.run (hcs c (by simp))) fun x hx => hcs x (by simp [hx])

/-- With braces open before, no block begins at the next line. -/
theorem State.Owes.firstLine_ne {n : Nat} {d : Int} {st : State} (hst : st.Owes sc file n d)
    (hd : 0 < d) {ls : List (List Char)} {b : Block} (hb : b ∈ (sc.run file n st ls).2) :
    b.firstLine ≠ n := by
  cases st with
  | seeking =>
    obtain rfl : d = 0 := hst
    omega
  | inside b' e =>
    obtain ⟨rfl, -, o, first, span, hspan, rfl, rfl⟩ := hst
    have hlen := List.length_pos_iff.2 hspan
    rcases staysOpen_or_closes e ls with hs | ⟨as, bs, rfl, hc⟩
    · rw [run_pending_append hspan hs] at hb
      simp at hb
    · have has := List.length_pos_iff.2 hc.ne_nil
      rw [run_append, run_finished_append hspan hc] at hb
      rcases List.mem_cons.1 hb with rfl | hb
      · simp only [finished, record]
        omega
      · have := (run_bounds hb).1
        omega

theorem State.Owes.nonneg {n : Nat} {d : Int} {st : State} (hst : st.Owes sc file n d) : 0 ≤ d := by
  cases st with
  | seeking => exact Int.le_of_eq (Eq.symm hst)
  | inside b e => exact Int.le_of_lt hst.2.1

theorem State.Owes.eq_seeking {n : Nat} {st : State} (hst : st.Owes sc file n 0) :
    st = .seeking := by
  cases st with
  | seeking => rfl
  | inside b e => exact absurd hst.2.1 (by omega)

/-! ## One chunk -/

/-- **A whole chunk is found exactly if the chunks before it leave no brace
    open.** -/
theorem run_finds_iff {n : Nat} {before after : List (List (List Char))} {c : List (List Char)}
    (hbefore : ∀ x ∈ before, sc.Whole file x ∨ sc.Broken x) (hc : sc.Whole file c) :
    (∀ b ∈ sc.scanFrom file (n + before.flatten.length) .seeking c,
      b ∈ (sc.run file n .seeking (before ++ c :: after).flatten).2) ↔ leftOver 0 before = 0 := by
  have hst : (sc.run file n .seeking before.flatten).1.Owes sc file (n + before.flatten.length)
      (leftOver 0 before) := by
    have hstart : State.seeking.Owes sc file n 0 := rfl
    exact hstart.run_chunks hbefore
  rw [List.flatten_append, run_append, scanFrom_eq_run]
  constructor
  · intro h
    obtain ⟨l, o, body, rfl, ho, hcl⟩ := whole_iff.1 hc
    rw [run_finished ho hcl] at h
    have hmem := h _ (List.mem_singleton_self _)
    rcases Int.lt_or_le 0 (leftOver 0 before) with hpos | hle
    · exfalso
      rcases List.mem_append.1 hmem with hmem | hmem
      · have := run_bounds hmem
        simp only [finished, record] at this
        omega
      · exact hst.firstLine_ne hpos hmem rfl
    · have := hst.nonneg
      omega
  · intro h b hb
    rw [h] at hst
    rw [hst.eq_seeking, List.flatten_cons, run_append]
    exact List.mem_append_right _ (List.mem_append_left _ hb)

/-! ## All chunks -/

theorem apart_append (n : Nat) (as bs : List (List (List Char))) :
    sc.apart file n (as ++ bs) = sc.apart file n as ++ sc.apart file (n + as.flatten.length) bs := by
  induction as generalizing n with
  | nil => rfl
  | cons a as ih =>
    rw [List.cons_append, apart, apart, ih, List.append_assoc, List.flatten_cons,
      List.length_append, Nat.add_assoc]

theorem apart_broken {cs : List (List (List Char))} (h : ∀ c ∈ cs, sc.Broken c) (n : Nat) :
    sc.apart file n cs = [] := by
  induction cs generalizing n with
  | nil => rfl
  | cons c cs ih =>
    obtain ⟨l, o, body, rfl, ho, -, hs⟩ := h c (by simp)
    rw [apart, scanFrom_eq_run, run_pending ho hs, ih fun x hx => h x (by simp [hx])]
    rfl

theorem staysOpen_broken {d : Int} {cs : List (List (List Char))} (hd : 0 < d)
    (h : ∀ c ∈ cs, sc.Broken c) : StaysOpen d cs.flatten := by
  induction cs generalizing d with
  | nil => exact staysOpen_nil d
  | cons c cs ih =>
    have hc := h c (by simp)
    have hpos := hc.braceSum_pos
    obtain ⟨l, o, body, rfl, -, -, hs⟩ := hc
    rw [List.flatten_cons]
    exact (hs.mono (by omega)).append (ih (by omega) fun x hx => h x (by simp [hx]))

/-- Where no whole chunk comes after a broken one, all whole ones are found. -/
theorem run_eq_apart {cs : List (List (List Char))}
    (h : ∀ c ∈ cs, sc.Whole file c ∨ sc.Broken c)
    (hcs : cs.Pairwise fun c c' => sc.Broken c → ¬ sc.Whole file c') (n : Nat) :
    (sc.run file n .seeking cs.flatten).2 = sc.apart file n cs := by
  induction cs generalizing n with
  | nil => rfl
  | cons c cs ih =>
    obtain ⟨hhead, htail⟩ := List.pairwise_cons.1 hcs
    have hrest : ∀ x ∈ cs, sc.Whole file x ∨ sc.Broken x := fun x hx => h x (by simp [hx])
    rcases h c (by simp) with hc | hc
    · rw [List.flatten_cons, run_append, apart, scanFrom_eq_run, ← ih hrest htail]
      obtain ⟨l, o, body, rfl, ho, hcl⟩ := whole_iff.1 hc
      rw [run_finished ho hcl]
    · have hbroken : ∀ x ∈ cs, sc.Broken x := fun x hx =>
        (hrest x hx).resolve_left (hhead x hx hc)
      have hall : ∀ x ∈ c :: cs, sc.Broken x := List.forall_mem_cons.2 ⟨hc, hbroken⟩
      have hpos := hc.braceSum_pos
      obtain ⟨l, o, body, rfl, ho, -, hs⟩ := hc
      have hopen := hs.append (staysOpen_broken (d := 0 + braceSum (l :: body)) (by omega) hbroken)
      rw [List.cons_append] at hopen
      rw [apart_broken hall, List.flatten_cons, List.cons_append, run_pending ho hopen]

/-- With braces open before, no chunk is found. -/
theorem not_whole_of_leftOver {d : Int} {cs : List (List (List Char))} (hd : 0 < d)
    (h : ∀ c ∈ cs, sc.Whole file c ∨ sc.Broken c)
    (hfound : ∀ before c after, cs = before ++ c :: after → sc.Whole file c →
      leftOver d before = 0) : ∀ c ∈ cs, ¬ sc.Whole file c := by
  induction cs generalizing d with
  | nil => simp
  | cons c cs ih =>
    have hc : ¬ sc.Whole file c := fun hw => by
      have : leftOver d [] = 0 := hfound [] c cs rfl hw
      simp only [leftOver, List.foldl_nil] at this
      omega
    have hpos := ((h c (by simp)).resolve_left hc).braceSum_pos
    refine List.forall_mem_cons.2 ⟨hc, ih (d := max 0 (d + braceSum c)) (by omega)
      (fun x hx => h x (by simp [hx])) fun before x after he hw => ?_⟩
    exact hfound (c :: before) x after (by rw [he]; rfl) hw

/-- Where every whole chunk is found, none comes after a broken one. -/
theorem pairwise_of_leftOver {cs : List (List (List Char))}
    (h : ∀ c ∈ cs, sc.Whole file c ∨ sc.Broken c)
    (hfound : ∀ before c after, cs = before ++ c :: after → sc.Whole file c →
      leftOver 0 before = 0) :
    cs.Pairwise fun c c' => sc.Broken c → ¬ sc.Whole file c' := by
  induction cs with
  | nil => exact .nil
  | cons c cs ih =>
    have hrest : ∀ x ∈ cs, sc.Whole file x ∨ sc.Broken x := fun x hx => h x (by simp [hx])
    have hnext : ∀ before x after, cs = before ++ x :: after → sc.Whole file x →
        leftOver (max 0 (0 + braceSum c)) before = 0 := fun before x after he hw =>
      hfound (c :: before) x after (by rw [he]; rfl) hw
    have hbroken : sc.Broken c → ∀ x ∈ cs, ¬ sc.Whole file x := fun hb => by
      have := hb.braceSum_pos
      exact not_whole_of_leftOver (by omega) hrest hnext
    refine List.pairwise_cons.2 ⟨fun x hx hb => hbroken hb x hx, ?_⟩
    rcases h c (by simp) with hw | hb
    · have := hw.braceSum_le
      rw [show max 0 (0 + braceSum c) = 0 by omega] at hnext
      exact ih hrest hnext
    · exact List.pairwise_iff_getElem.2 fun i j _ hj _ _ => hbroken hb _ (List.getElem_mem hj)

/-- **Which chunks of a text are found.**  A whole chunk is found exactly if the
    chunks before it leave no brace open; all whole chunks are found, in order,
    exactly if none of them comes after a broken one. -/
theorem recovers_iff {text : String} {chunks : List (List (List Char))}
    (hchunks : ∀ c ∈ chunks, sc.Whole file c ∨ sc.Broken c)
    (htext : lines text.toList = chunks.flatten) :
    (∀ before c after, chunks = before ++ c :: after → sc.Whole file c →
      ((∀ b ∈ sc.scanFrom file (1 + before.flatten.length) .seeking c, b ∈ sc.scan file text) ↔
        leftOver 0 before = 0)) ∧
    ((sc.apart file 1 chunks).Sublist (sc.scan file text) ↔
      chunks.Pairwise fun c c' => sc.Broken c → ¬ sc.Whole file c') := by
  rw [scan_eq_run, htext]
  have hfinds : ∀ before c after, chunks = before ++ c :: after → sc.Whole file c →
      ((∀ b ∈ sc.scanFrom file (1 + before.flatten.length) .seeking c,
        b ∈ (sc.run file 1 .seeking chunks.flatten).2) ↔ leftOver 0 before = 0) := by
    intro before c after he hc
    rw [he]
    exact run_finds_iff (fun x hx => hchunks x (by simp [he, hx])) hc
  refine ⟨hfinds, fun hsub => ?_, fun hcs => ?_⟩
  · refine pairwise_of_leftOver hchunks fun before c after he hc => ?_
    refine (hfinds before c after he hc).1 fun b hb => hsub.subset ?_
    rw [he, apart_append, apart]
    exact List.mem_append_right _ (List.mem_append_left _ hb)
  · simp only [run_eq_apart hchunks hcs, List.Sublist.refl]

/-! ## Two chunks -/

/-- The lines of a role. -/
def closedRole : List (List Char) :=
  ["resource \"aws_iam_role\" \"ok\" \x7b", "  name = \"ok\"", "\x7d"].map String.toList

/-- The lines of a bucket, but for the last one. -/
def openBucket : List (List Char) :=
  ["resource \"aws_s3_bucket\" \"broken\" \x7b", "  bucket = \"broken\""].map String.toList

theorem whole_closedRole : (resources []).Whole "main.tf" closedRole := by decide +kernel

theorem broken_openBucket : (resources []).Broken openBucket := by
  refine ⟨_, ⟨"aws_s3_bucket".toList, "broken".toList⟩, _, rfl, ?_, ?_, ?_⟩
  · decide +kernel
  · decide +kernel
  · exact staysOpen_cons.2 ⟨by decide +kernel, staysOpen_cons.2 ⟨by decide +kernel, staysOpen_nil _⟩⟩

/-- A role before the broken bucket is found. -/
theorem recovers_before_broken :
    let text := String.ofList (unlines (closedRole ++ openBucket))
    (∀ c ∈ [closedRole, openBucket],
      (resources []).Whole "main.tf" c ∨ (resources []).Broken c) ∧
    lines text.toList = [closedRole, openBucket].flatten ∧
    ((resources []).apart "main.tf" 1 [closedRole, openBucket]).Sublist
      ((resources []).scan "main.tf" text) := by
  intro text
  have hchunks : ∀ c ∈ [closedRole, openBucket],
      (resources []).Whole "main.tf" c ∨ (resources []).Broken c := by
    simp [whole_closedRole, broken_openBucket]
  have htext : lines text.toList = [closedRole, openBucket].flatten := by decide +kernel
  have hopen : ¬ (resources []).Whole "main.tf" openBucket := by decide +kernel
  refine ⟨hchunks, htext, (recovers_iff hchunks htext).2.2 ?_⟩
  simp [hopen]

/-- **A broken block hides the block after it**: the role is a block of its own,
    and the scan does not find it. -/
theorem broken_hides_block :
    let text := String.ofList (unlines (openBucket ++ closedRole))
    (resources []).Broken openBucket ∧ (resources []).Whole "main.tf" closedRole ∧
    lines text.toList = [openBucket, closedRole].flatten ∧
    ¬ ((resources []).apart "main.tf" 1 [openBucket, closedRole]).Sublist
      ((resources []).scan "main.tf" text) := by
  intro text
  refine ⟨broken_openBucket, whole_closedRole, ?_, ?_⟩
  · decide +kernel
  · decide +kernel

end BlockScanner

end InfraEvidence
