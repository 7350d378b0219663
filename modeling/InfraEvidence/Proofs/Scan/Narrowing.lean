/-
  InfraEvidence — scans with a narrower and a wider allow-list.

  * `BlockScanner.resources`: the scanner for the resources of an allow-list;
  * `State.Below`: a scan is outside of blocks, or in one with fewer open
    braces than a given number;
  * `run_seeking_of_closes`: over a block that a scanner does not open, it ends
    outside of blocks, whatever it opens inside of the block;
  * `captured`: the blocks that a scan completes or still has open at the end;
  * `scan_narrower`: the wider scan, cut down to the types that the narrower
    list admits, is a part of the narrower scan, and all of it unless a
    captured block of a rejected type has an opening inside.
-/
import InfraEvidence.Proofs.Scan.Intervals

namespace InfraEvidence

open Text

namespace BlockScanner

/-- The scanner for the resources whose types an allow-list admits. -/
def resources (types : AllowList) : BlockScanner := ⟨.resource, types⟩

theorem open?_resources_eq_some {P : AllowList} {l : List Char} {o : Opening} :
    (resources P).open? l = some o ↔
      Opening.parse? .resource (trim l) = some o ∧ P.admits (String.ofList o.type) = true := by
  simp only [resources, open?]
  cases h : Opening.parse? .resource (trim l) with
  | none => simp
  | some o' =>
    by_cases ha : P.admits (String.ofList o'.type) = true
    · simp only [ha, Bool.true_eq_false, and_false, ↓reduceIte, Option.some.injEq]
      constructor
      · rintro rfl; exact ⟨rfl, ha⟩
      · rintro ⟨rfl, -⟩; rfl
    · simp only [Bool.not_eq_true] at ha
      simp only [ha, and_self, ↓reduceIte, reduceCtorEq, Option.some.injEq, false_iff, not_and]
      rintro rfl
      simp [ha]

theorem open?_resources_eq_none {P : AllowList} {l : List Char}
    (h : Opening.parse? .resource (trim l) = none) : (resources P).open? l = none := by
  cases ho : (resources P).open? l with
  | none => rfl
  | some o =>
    have := (open?_resources_eq_some.1 ho).1
    rw [h] at this
    contradiction

theorem open?_resources_eq_none_of_admits {P : AllowList} {l : List Char} {o : Opening}
    (h : Opening.parse? .resource (trim l) = some o)
    (ha : P.admits (String.ofList o.type) = false) : (resources P).open? l = none := by
  cases ho : (resources P).open? l with
  | none => rfl
  | some o' =>
    obtain ⟨h', ha'⟩ := open?_resources_eq_some.1 ho
    rw [h, Option.some.injEq] at h'
    rw [h', ha'] at ha
    contradiction

/-! ## A block that is not opened -/

/-- Outside of blocks, or in one with at least one open brace and fewer than `d`. -/
def State.Below (d : Int) : State → Prop
  | .seeking => True
  | .inside _ e => 0 < e ∧ e < d

theorem State.Below.eq_seeking {d : Int} {st : State} (h : st.Below d) (hd : d ≤ 0) :
    st = .seeking := by
  cases st with
  | seeking => rfl
  | inside b e =>
    obtain ⟨h1, h2⟩ := h
    omega

variable {sc : BlockScanner} {file : String}

/-- A line changes the number of open braces of both sides by the same amount,
    and an opening begins below `0 < d`. -/
theorem State.Below.step {d : Int} {st : State} (h : st.Below d) (hd : 0 < d) (n : Nat)
    (l : List Char) : (sc.step file n l st).1.Below (d + braceDelta l) := by
  cases st with
  | seeking =>
    cases ho : sc.open? l with
    | none => rw [step_skip ho]; trivial
    | some o =>
      by_cases hl : 0 < braceDelta l
      · rw [step_open ho hl]
        exact ⟨hl, by omega⟩
      · rw [step_oneLine ho (by omega)]; trivial
  | inside b e =>
    obtain ⟨h1, h2⟩ := h
    by_cases hl : 0 < e + braceDelta l
    · rw [step_inside hl]
      exact ⟨hl, by omega⟩
    · rw [step_close (by omega)]; trivial

theorem State.Below.run {d : Int} {st : State} {ls : List (List Char)} (h : st.Below d)
    (hd : 0 < d) (hls : StaysOpen d ls.dropLast) (n : Nat) :
    (sc.run file n st ls).1.Below (d + braceSum ls) := by
  induction ls generalizing st d n with
  | nil => simpa using h
  | cons l ls ih =>
    have hstep : (sc.step file n l st).1.Below (d + braceDelta l) := h.step hd n l
    cases ls with
    | nil => simpa [run_cons] using hstep
    | cons l' ls =>
      obtain ⟨hd', hls'⟩ := staysOpen_cons.1 hls
      rw [run_cons, braceSum_cons, ← Int.add_assoc]
      exact ih hstep hd' hls' (n + 1)

/-- **A block that is not opened is left outside of blocks**, even if lines
    inside of it are opened. -/
theorem run_seeking_of_closes {l : List Char} {body : List (List Char)} (hl : sc.open? l = none)
    (h : Closes 0 (l :: body)) (n : Nat) :
    (sc.run file n .seeking (l :: body)).1 = .seeking := by
  rw [run_layout_skip hl]
  cases body with
  | nil => rfl
  | cons l' body =>
    obtain ⟨hd, hb⟩ := closes_cons_cons.1 h
    rw [Int.zero_add] at hd hb
    have hbelow : State.seeking.Below (braceDelta l) := trivial
    exact (hbelow.run hd hb.before (n + 1)).eq_seeking hb.closed

theorem run_rejected {P : AllowList} {l : List Char} {o : Opening} {body : List (List Char)}
    (hl : Opening.parse? .resource (trim l) = some o)
    (ha : P.admits (String.ofList o.type) = false)
    (hbody : ∀ x ∈ body, Opening.parse? .resource (trim x) = none) (n : Nat) :
    (resources P).run file n .seeking (l :: body) = (.seeking, []) := by
  refine run_skip (fun x hx => ?_) n
  rcases List.mem_cons.1 hx with rfl | hx
  · exact open?_resources_eq_none_of_admits hl ha
  · exact open?_resources_eq_none (hbody x hx)

/-! ## Captured blocks -/

/-- The block that is open. -/
def State.block? : State → Option Block
  | .seeking => none
  | .inside b _ => some b

/-- The blocks that a run captures, each with the number of its last line:
    those that it completes, and the one still open at the end. -/
def capturedFrom (sc : BlockScanner) (file : String) (n : Nat) (ls : List (List Char)) :
    List (Block × Nat) :=
  (sc.run file n .seeking ls).2.map (fun b => (b, b.lastLine)) ++
    ((sc.run file n .seeking ls).1.block?.map fun b => (b, n + ls.length - 1)).toList

/-- The blocks that a scan captures, each with the number of its last line. -/
def captured (sc : BlockScanner) (file text : String) : List (Block × Nat) :=
  sc.capturedFrom file 1 (lines text.toList)

/-- Among lines that begin with number `n`, none after the first one of a
    captured block, up to its last one, opens a resource. -/
def NoOpeningInside (n : Nat) (ls : List (List Char)) (c : Block × Nat) : Prop :=
  ∀ i l, c.1.firstLine < n + i → n + i ≤ c.2 → ls[i]? = some l →
    Opening.parse? .resource (trim l) = none

theorem NoOpeningInside.body {n : Nat} {b : Block} {l : List Char} {body rest : List (List Char)}
    (h : NoOpeningInside n (l :: body ++ rest) (b, n + body.length)) (hb : b.firstLine = n) :
    ∀ x ∈ body, Opening.parse? .resource (trim x) = none := by
  intro x hx
  obtain ⟨i, hi⟩ := List.getElem?_of_mem hx
  obtain ⟨hlt, -⟩ := List.getElem?_eq_some_iff.1 hi
  refine h (i + 1) x ?_ ?_ ?_
  · show b.firstLine < n + (i + 1)
    omega
  · show n + (i + 1) ≤ n + body.length
    omega
  · rw [List.cons_append, List.getElem?_cons_succ, List.getElem?_append_left hlt, hi]

theorem capturedFrom_skip {l : List Char} (h : sc.open? l = none) (n : Nat)
    (ls : List (List Char)) :
    sc.capturedFrom file n (l :: ls) = sc.capturedFrom file (n + 1) ls := by
  unfold capturedFrom
  rw [run_layout_skip h, List.length_cons, show n + (ls.length + 1) = n + 1 + ls.length by omega]

theorem capturedFrom_block {l : List Char} {o : Opening} {body : List (List Char)}
    (ho : sc.open? l = some o) (h : Closes 0 (l :: body)) (n : Nat) (rest : List (List Char)) :
    sc.capturedFrom file n (l :: body ++ rest) =
      (sc.finished file o n (l :: body), n + body.length) ::
        sc.capturedFrom file (n + (l :: body).length) rest := by
  unfold capturedFrom
  rw [run_layout_block ho h, List.length_append, ← Nat.add_assoc]
  rfl

theorem capturedFrom_tail {l : List Char} {o : Opening} {body : List (List Char)}
    (ho : sc.open? l = some o) (h : StaysOpen 0 (l :: body)) (n : Nat) :
    sc.capturedFrom file n (l :: body) =
      [(sc.pending file o n (l :: body), n + body.length)] := by
  unfold capturedFrom
  rw [run_pending ho h]
  rfl

/-! ## The two scans -/

section
variable {P Q : AllowList} (hPQ : ∀ type, P.admits type = true → Q.admits type = true)
include hPQ

theorem open?_eq_none_of_wider {l : List Char} (h : (resources Q).open? l = none) :
    (resources P).open? l = none := by
  cases ho : (resources P).open? l with
  | none => rfl
  | some o =>
    obtain ⟨hp, ha⟩ := open?_resources_eq_some.1 ho
    rw [open?_resources_eq_some.2 ⟨hp, hPQ _ ha⟩] at h
    contradiction

/-- The blocks of the wider run whose types the narrower list admits are found
    by the narrower run. -/
theorem run_narrower (n : Nat) (ls : List (List Char)) :
    (((resources Q).run file n .seeking ls).2.filter fun b => P.admits b.type).Sublist
      ((resources P).run file n .seeking ls).2 := by
  -- along the layout of the wider scan: wherever it is outside of blocks, so is the narrower one
  have hl := layout (resources Q) ls
  induction hl generalizing n with
  | nil => exact List.nil_sublist _
  | skip h _ ih =>
    rw [run_layout_skip h, run_layout_skip (open?_eq_none_of_wider hPQ h)]
    exact ih (n + 1)
  | @block l o body rest ho hc _ ih =>
    obtain ⟨hp, -⟩ := open?_resources_eq_some.1 ho
    rw [run_layout_block ho hc]
    cases ha : P.admits (String.ofList o.type) with
    | true =>
      rw [run_layout_block (open?_resources_eq_some.2 ⟨hp, ha⟩) hc,
        List.filter_cons_of_pos (by exact ha)]
      exact (ih _).cons_cons _
    | false =>
      have hno := open?_resources_eq_none_of_admits hp ha
      rw [List.filter_cons_of_neg (by simpa [finished, record] using ha), run_append,
        run_seeking_of_closes hno hc]
      exact (ih _).trans (List.sublist_append_right _ _)
  | tail ho h =>
    rw [run_pending ho h]
    exact List.nil_sublist _

/-- The narrower run finds no more than that if the blocks of rejected types
    have no openings inside. -/
theorem run_narrower_eq (n : Nat) (ls : List (List Char))
    (hin : ∀ c ∈ (resources Q).capturedFrom file n ls, P.admits c.1.type = false →
      NoOpeningInside n ls c) :
    ((resources P).run file n .seeking ls).2 =
      ((resources Q).run file n .seeking ls).2.filter fun b => P.admits b.type := by
  have hl := layout (resources Q) ls
  induction hl generalizing n with
  | nil => rfl
  | @skip l ls h _ ih =>
    rw [run_layout_skip h, run_layout_skip (open?_eq_none_of_wider hPQ h)]
    rw [capturedFrom_skip h] at hin
    exact ih (n + 1) fun c hc ha i x h1 h2 hx => hin c hc ha (i + 1) x (by omega) (by omega) hx
  | @block l o body rest ho hc _ ih =>
    obtain ⟨hp, -⟩ := open?_resources_eq_some.1 ho
    rw [capturedFrom_block ho hc] at hin
    have hrest := ih (n + (l :: body).length) fun c hc' ha i x h1 h2 hx =>
      hin c (List.mem_cons_of_mem _ hc') ha ((l :: body).length + i) x (by omega) (by omega)
        (by rw [List.getElem?_append_right (by omega), Nat.add_sub_cancel_left]; exact hx)
    rw [run_layout_block ho hc]
    cases ha : P.admits (String.ofList o.type) with
    | true =>
      rw [run_layout_block (open?_resources_eq_some.2 ⟨hp, ha⟩) hc, hrest,
        List.filter_cons_of_pos (by exact ha)]
      rfl
    | false =>
      have hbody := (hin _ List.mem_cons_self ha).body rfl
      rw [List.filter_cons_of_neg (by simpa [finished, record] using ha), run_append,
        run_rejected hp ha hbody, hrest]
      rfl
  | @tail l o body ho h =>
    obtain ⟨hp, -⟩ := open?_resources_eq_some.1 ho
    rw [capturedFrom_tail ho h] at hin
    rw [run_pending ho h]
    cases ha : P.admits (String.ofList o.type) with
    | true =>
      rw [run_pending (open?_resources_eq_some.2 ⟨hp, ha⟩) h]
      rfl
    | false =>
      have hno := hin _ List.mem_cons_self ha
      rw [← List.append_nil (l :: body)] at hno
      rw [run_rejected hp ha (hno.body rfl)]
      rfl

end

/-- **An allow-list loses no block.**  The blocks of the wider scan whose types
    the narrower list admits are found by the narrower scan, in order; and it
    finds no others if no captured block of a rejected type has the opening of
    a resource inside. -/
theorem scan_narrower {P Q : AllowList}
    (hPQ : ∀ type, P.admits type = true → Q.admits type = true) (file text : String) :
    (((resources Q).scan file text).filter fun b => P.admits b.type).Sublist
      ((resources P).scan file text) ∧
    ((∀ c ∈ (resources Q).captured file text, P.admits c.1.type = false →
        ∀ i, c.1.firstLine < i → i ≤ c.2 → ¬ (resources []).OpensAt (lines text.toList) i) →
      (resources P).scan file text =
        ((resources Q).scan file text).filter fun b => P.admits b.type) := by
  rw [scan_eq_run, scan_eq_run]
  refine ⟨run_narrower hPQ 1 _, fun h => run_narrower_eq hPQ 1 _ fun c hc ha i l h1 h2 hl => ?_⟩
  cases ho : Opening.parse? .resource (trim l) with
  | none => rfl
  | some o =>
    refine absurd ?_ (h c hc ha (1 + i) h1 h2)
    exact ⟨by omega, l, o, by rw [Nat.add_sub_cancel_left, hl], open?_resources_eq_some.2 ⟨ho, rfl⟩⟩

/-- The glob `aws_iam_*`. -/
def roleTypes : AllowList := [⟨"aws_iam_*", "aws_iam_".toList.map .char ++ [.anyText]⟩]

/-- Behind a bucket that the allow-list rejects, the role is found. -/
theorem scan_narrower_role :
    let text := String.ofList (unlines (["resource \"aws_s3_bucket\" \"logs\" \x7b", "  acl = 1",
      "\x7d", "resource \"aws_iam_role\" \"admin\" \x7b", "\x7d"].map String.toList))
    (∀ type, roleTypes.admits type = true → AllowList.admits [] type = true) ∧
    ((resources roleTypes).scan "main.tf" text).map (·.canonicalReference) =
      ["aws_iam_role.admin"] := by
  intro text
  have hall : ∀ type, roleTypes.admits type = true → AllowList.admits [] type = true :=
    fun _ _ => rfl
  have hcaptured : ∀ c ∈ (resources []).captured "main.tf" text,
      roleTypes.admits c.1.type = false → c.1.firstLine = 1 ∧ c.2 = 3 := by
    decide +kernel
  have hopens : ∀ i ≤ 3, 1 < i → ¬ (resources []).OpensAt (lines text.toList) i := by
    decide +kernel
  refine ⟨hall, ?_⟩
  rw [(scan_narrower hall "main.tf" text).2 fun c hc ha i h1 h2 => ?_]
  · decide +kernel
  · obtain ⟨hfirst, hlast⟩ := hcaptured c hc ha
    exact hopens i (by omega) (by omega)

end BlockScanner

end InfraEvidence
