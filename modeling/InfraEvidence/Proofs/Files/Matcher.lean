/-
  InfraEvidence — what a file has to match.

  * `FileMatcher.Matches`: a glob, as it is written, matches a relative path;
  * `FileMatcher.Wanted`: a relative path matches one of the globs to include,
    none to exclude and, if there are any, one of the further globs;
  * `FileMatcher.ofSettings_eq_ok`: well-formed globs are read, and select
    exactly the wanted paths;
  * `FileMatcher.ofSettings_eq_error`: the first further glob that is malformed
    is the fault.
-/
import InfraEvidence.Proofs.Files.Place
import Mathlib.Data.List.Forall2

namespace InfraEvidence

/-! ## Reading several globs -/

section MapM

variable {α β ε : Type} {f : α → Except ε β}

theorem mapM_eq_ok_iff {xs : List α} {ys : List β} :
    xs.mapM f = .ok ys ↔ List.Forall₂ (fun x y => f x = .ok y) xs ys := by
  induction xs generalizing ys with
  | nil =>
    rw [List.mapM_nil, List.forall₂_nil_left_iff]
    exact ⟨fun h => (Except.ok.inj h).symm, fun h => congrArg Except.ok h.symm⟩
  | cons x xs ih =>
    rw [List.mapM_cons, bind_eq_ok, List.forall₂_cons_left_iff]
    refine exists_congr fun y => ?_
    constructor
    · rintro ⟨hy, hrest⟩
      obtain ⟨ys', hys, hall⟩ := bind_eq_ok.1 hrest
      exact ⟨ys', hy, ih.1 hys, (Except.ok.inj hall).symm⟩
    · rintro ⟨ys', hy, hys, rfl⟩
      exact ⟨hy, bind_eq_ok.2 ⟨ys', ih.2 hys, rfl⟩⟩

theorem exists_mapM_eq_ok {xs : List α} (h : ∀ x ∈ xs, ∃ y, f x = .ok y) :
    ∃ ys, xs.mapM f = .ok ys := by
  induction xs with
  | nil => exact ⟨[], rfl⟩
  | cons x xs ih =>
    obtain ⟨⟨y, hy⟩, hxs⟩ := List.forall_mem_cons.1 h
    obtain ⟨ys, hys⟩ := ih hxs
    exact ⟨y :: ys, mapM_eq_ok_iff.2 (.cons hy (mapM_eq_ok_iff.1 hys))⟩

/-- The first failure is the failure of all. -/
theorem mapM_eq_error {before after : List α} {x : α} {e : ε}
    (hbefore : ∀ b ∈ before, ∃ y, f b = .ok y) (hx : f x = .error e) :
    (before ++ x :: after).mapM f = .error e := by
  obtain ⟨ys, hys⟩ := exists_mapM_eq_ok hbefore
  rw [List.mapM_append, hys, List.mapM_cons, hx]
  rfl

theorem any_iff_of_mapM {p : β → Bool} {xs : List α} {ys : List β} (h : xs.mapM f = .ok ys) :
    ys.any p = true ↔ ∃ x ∈ xs, ∃ y, f x = .ok y ∧ p y = true := by
  induction mapM_eq_ok_iff.1 h with
  | nil => simp
  | cons hy _ ih =>
    rw [List.any_cons, Bool.or_eq_true, ih (mapM_eq_ok_iff.2 ‹_›)]
    simp [hy]

end MapM

/-- The text is a well-formed glob. -/
def Glob.WellFormed (text : String) : Prop := ∃ g, Glob.read text = .ok g

instance (text : String) : Decidable (Glob.WellFormed text) :=
  decidable_of_iff ((Glob.read text).isOk = true) <| by
    unfold Glob.WellFormed
    cases Glob.read text <;> simp [Except.isOk, Except.toBool]

theorem Glob.text_read {text : String} {g : Glob} (h : Glob.read text = .ok g) : g.text = text := by
  rw [Glob.read, Glob.parse?] at h
  cases hparse : Glob.parseFrom none 0 [] text.toList with
  | error e => simp [hparse, Except.map] at h
  | ok tokens =>
    rw [hparse] at h
    obtain rfl := Except.ok.inj h
    rfl

/-! ## Matching relative paths -/

namespace FileMatcher

open InfraEvidence.Path

/-- A glob, as it is written, matches a relative path: the whole of it, where a
    backslash counts as a slash, if the glob has a `/`, else its name. -/
def Matches (text : String) (names : List String) : Prop :=
  ∃ g, Glob.read text = .ok g ∧
    g.admits (if '/' ∈ text.toList then withSlashes (ofNames names) else names.getLastD "") = true

/-- The relative path is one of those to read. -/
structure Wanted (s : ScanSettings) (further : List String) (names : List String) : Prop where
  /-- It matches a glob to include -/
  included : ∃ g ∈ s.includes, Matches g names
  /-- It matches no glob to exclude -/
  notExcluded : ∀ g ∈ s.excludes, ¬ Matches g names
  /-- If there are further globs, it matches one of them -/
  further : further ≠ [] → ∃ g ∈ further, Matches g names

theorem hits_iff {text : String} {g : Glob} {names : List String} (hg : Glob.read text = .ok g)
    (hnames : ∀ n ∈ names, IsName n) : hits (ofNames names) g = true ↔ Matches text names := by
  have hname : (fileName? (ofNames names)).getD "" = names.getLastD "" := by
    rw [fileName?_ofNames hnames, List.getLastD_eq_getLast?]
  have hsame : hits (ofNames names) g = g.admits
      (if '/' ∈ text.toList then withSlashes (ofNames names) else names.getLastD "") := by
    rw [hits, Glob.text_read hg, hname]
    by_cases hslash : '/' ∈ text.toList <;> simp [hslash]
  rw [hsame, Matches, hg]
  simp

theorem any_hits_iff {texts : List String} {gs : List Glob} {names : List String}
    (h : texts.mapM Glob.read = .ok gs) (hnames : ∀ n ∈ names, IsName n) :
    gs.any (hits (ofNames names)) = true ↔ ∃ text ∈ texts, Matches text names := by
  rw [any_iff_of_mapM h]
  refine exists_congr fun text => and_congr_right fun _ => ?_
  constructor
  · rintro ⟨g, hg, hhits⟩
    exact (hits_iff hg hnames).1 hhits
  · rintro hmatches
    obtain ⟨g, hg, -⟩ := id hmatches
    exact ⟨g, hg, (hits_iff hg hnames).2 hmatches⟩

/-- **Well-formed globs are read**, and they select the wanted paths. -/
theorem ofSettings_eq_ok {s : ScanSettings} {further : List String}
    (hglobs : ∀ g ∈ s.includes ++ s.excludes, Glob.WellFormed g)
    (hfurther : ∀ g ∈ further, Glob.WellFormed g) :
    ∃ m, ofSettings s further = .ok m ∧ ∀ names, (∀ n ∈ names, IsName n) →
      (m.selects (ofNames names) = true ↔ Wanted s further names) := by
  obtain ⟨hincludes, hexcludes⟩ := List.forall_mem_append.1 hglobs
  obtain ⟨is, his⟩ := exists_mapM_eq_ok hincludes
  obtain ⟨es, hes⟩ := exists_mapM_eq_ok hexcludes
  obtain ⟨fs, hfs⟩ := exists_mapM_eq_ok hfurther
  refine ⟨⟨is, es, fs⟩, ?_, fun names hnames => ?_⟩
  · rw [ofSettings, his, hes, hfs]
    rfl
  · have hnone : fs = [] ↔ further = [] := by
      rw [← List.length_eq_zero_iff, ← List.length_eq_zero_iff,
        (mapM_eq_ok_iff.1 hfs).length_eq]
    have hin := any_hits_iff his hnames
    have hex := any_hits_iff hes hnames
    have hfu := any_hits_iff hfs hnames
    simp only [selects, Bool.and_eq_true, Bool.or_eq_true, Bool.not_eq_true', Bool.eq_false_iff,
      ne_eq, List.isEmpty_iff, hin, hex, hfu, hnone, not_exists, not_and]
    constructor
    · rintro ⟨⟨hi, he⟩, hf⟩
      exact ⟨hi, he, hf.resolve_left⟩
    · rintro ⟨hi, he, hf⟩
      exact ⟨⟨hi, he⟩, or_iff_not_imp_left.2 hf⟩

/-- **The first further glob that is malformed** is the fault. -/
theorem ofSettings_eq_error {s : ScanSettings} {before after : List String} {g : String}
    {fault : Fault} (hglobs : ∀ g ∈ s.includes ++ s.excludes, Glob.WellFormed g)
    (hbefore : ∀ b ∈ before, Glob.WellFormed b) (hg : Glob.read g = .error fault) :
    ofSettings s (before ++ g :: after) = .error fault := by
  obtain ⟨hincludes, hexcludes⟩ := List.forall_mem_append.1 hglobs
  obtain ⟨is, his⟩ := exists_mapM_eq_ok hincludes
  obtain ⟨es, hes⟩ := exists_mapM_eq_ok hexcludes
  rw [ofSettings, his, hes, mapM_eq_error hbefore hg]
  rfl

end FileMatcher

end InfraEvidence
