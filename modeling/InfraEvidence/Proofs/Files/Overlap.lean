/-
  InfraEvidence — files that are found from several roots.

  Paths are compared by their components when the files of several roots are
  put together, which is not where they lead: `./a` and `a` are two paths.

  * `Walk.mem_components_addPaths`, `Walk.nodup_addPaths`: of the spellings of a
    path the first one is taken;
  * `Walk.collectAll_eq`: the files below several roots;
  * `Walk.Once`: no two of the paths lead to the same place;
  * `Walk.Aligned`: a root below another one is spelled as a path below it;
  * `Walk.once_iff_aligned`: each file is collected once exactly if roots that
    find a common file are aligned;
  * `Walk.aligned_of_start`: roots without `.` and `..` are.
-/
import InfraEvidence.Proofs.Files.Walk
import Mathlib.Data.List.Pairwise

namespace InfraEvidence.Walk

open InfraEvidence.Path

/-! ## Paths, each one once -/

theorem addPaths_cons (acc : List String) (p : String) (new : List String) :
    addPaths acc (p :: new) = addPaths (if acc.any (same p) then acc else acc ++ [p]) new := rfl

theorem any_same_iff {acc : List String} {p : String} :
    acc.any (same p) = true ↔ components p ∈ acc.map components := by
  rw [List.any_eq_true, List.mem_map]
  exact exists_congr fun q => and_congr_right fun _ => by rw [same, beq_iff_eq, eq_comm]

theorem mem_of_mem_addPaths {acc new : List String} {p : String} (h : p ∈ addPaths acc new) :
    p ∈ acc ∨ p ∈ new := by
  induction new generalizing acc with
  | nil => exact Or.inl h
  | cons q new ih =>
    rw [addPaths_cons] at h
    rcases ih h with h | h
    · split at h
      · exact Or.inl h
      · rcases List.mem_append.1 h with h | h
        · exact Or.inl h
        · exact Or.inr (List.mem_singleton.1 h ▸ List.mem_cons_self)
    · exact Or.inr (List.mem_cons_of_mem q h)

/-- **No path is lost**, up to its spelling. -/
theorem mem_components_addPaths {acc new : List String} {cs : List Component} :
    cs ∈ (addPaths acc new).map components ↔
      cs ∈ acc.map components ∨ cs ∈ new.map components := by
  induction new generalizing acc with
  | nil => simp [addPaths]
  | cons q new ih =>
    rw [addPaths_cons, ih, List.map_cons, List.mem_cons, ← or_assoc]
    refine or_congr_left ?_
    split
    · next hq =>
      have hold := any_same_iff.1 hq
      exact ⟨Or.inl, fun h => h.elim id fun heq => heq ▸ hold⟩
    · simp

/-- **No path is there twice**, however it is spelled. -/
theorem nodup_addPaths {acc : List String} (new : List String)
    (h : (acc.map components).Nodup) : ((addPaths acc new).map components).Nodup := by
  induction new generalizing acc with
  | nil => exact h
  | cons q new ih =>
    rw [addPaths_cons]
    refine ih ?_
    split
    · exact h
    · next hq =>
      have hnew : components q ∉ acc.map components := fun hmem => hq (any_same_iff.2 hmem)
      rw [List.map_append, List.map_singleton, List.nodup_append]
      refine ⟨h, List.nodup_singleton _, fun cs hcs ds hds heq => hnew ?_⟩
      rwa [← List.mem_singleton.1 hds, ← heq]

/-! ## What each root finds -/

/-- The relative paths of the files that are found from a root, if it exists. -/
def foundAt (fs : FileSystem) (m : FileMatcher) (depth : Nat) (root : String) :
    List (List String) :=
  match fs.node root with
  | .ok n => foundFrom m depth root n
  | .error _ => []

variable {fs : FileSystem} {m : FileMatcher} {depth : Nat} {s : ScanSettings}
  {further roots : List String}

/-- The paths of the files that are found from some roots. -/
def foundPaths (fs : FileSystem) (m : FileMatcher) (depth : Nat) (roots : List String) :
    List String :=
  roots.flatMap fun r => (foundAt fs m depth r).map (below r)

theorem collectAll_eq (hroots : ∀ r ∈ roots, ∃ n, fs.node r = .ok n)
    (hm : FileMatcher.ofSettings s further = .ok m) :
    collectAll fs s further roots = .ok (addPaths [] (foundPaths fs m s.maxDepth roots)) := by
  suffices h : ∀ acc, roots.foldlM (fun acc r => (collect fs s further r).map (addPaths acc)) acc =
      .ok (addPaths acc (foundPaths fs m s.maxDepth roots)) from h []
  induction roots with
  | nil => exact fun acc => rfl
  | cons r roots ih =>
    intro acc
    obtain ⟨⟨n, hn⟩, hroots⟩ := List.forall_mem_cons.1 hroots
    have hfirst : foundAt fs m s.maxDepth r = foundFrom m s.maxDepth r n := by
      rw [foundAt, hn]
    rw [List.foldlM_cons, collect_eq hn hm, foundPaths, List.flatMap_cons, hfirst, addPaths,
      List.foldl_append]
    exact ih hroots _

theorem at?_of_mem_foundFrom {n : Node} (hn : n.Proper) {root : String} {names : List String}
    (h : names ∈ foundFrom m depth root n) : ∃ bytes, n.at? names = some (.file bytes) := by
  cases n with
  | file bytes =>
    rw [foundFrom] at h
    split at h
    · obtain rfl := List.mem_singleton.1 h
      exact ⟨bytes, rfl⟩
    · contradiction
  | folder children => exact ((Node.mem_filesBelow hn).1 (mem_selected.1 h).1).2.2

/-- What is found from a root is a file below the node that the root leads to. -/
theorem file_of_mem_foundAt (hproper : fs.root.Proper) {root : String} {names : List String}
    (h : names ∈ foundAt fs m depth root) :
    ∃ place n bytes, fs.resolve root = .ok place ∧ fs.root.at? place = some n ∧ n.Proper ∧
      n.at? names = some (.file bytes) := by
  unfold foundAt at h
  split at h
  · next n hn =>
    obtain ⟨place, hplace, hat⟩ := FileSystem.node_eq_ok.1 hn
    have hnproper := (hproper.at? hat).1
    obtain ⟨bytes, hfile⟩ := at?_of_mem_foundFrom hnproper h
    exact ⟨place, n, bytes, hplace, hat, hnproper, hfile⟩
  · contradiction

/-- What is found from a root leads to a file below it, and is spelled so. -/
theorem resolve_of_mem_foundAt (hproper : fs.root.Proper) {root : String} {names : List String}
    (h : names ∈ foundAt fs m depth root) :
    ∃ place, fs.resolve root = .ok place ∧ fs.resolve (below root names) = .ok (place ++ names) ∧
      components (below root names) = components root ++ names.map .name := by
  obtain ⟨place, n, bytes, hplace, hat, hn, hfile⟩ := file_of_mem_foundAt hproper h
  exact ⟨place, hplace, FileSystem.resolve_below hplace hat hn hfile,
    components_below (FileSystem.ne_empty_of_resolve hplace) (hn.at? hfile).2⟩

theorem exists_of_mem_files {p : String} (h : p ∈ addPaths [] (foundPaths fs m depth roots)) :
    ∃ r ∈ roots, ∃ names ∈ foundAt fs m depth r, p = below r names := by
  have hp := (mem_of_mem_addPaths h).resolve_left List.not_mem_nil
  obtain ⟨r, hr, hp⟩ := List.mem_flatMap.1 hp
  obtain ⟨names, hnames, rfl⟩ := List.mem_map.1 hp
  exact ⟨r, hr, names, hnames, rfl⟩

/-- **Every file that is found is collected**, under some spelling of its path. -/
theorem exists_mem_files (hproper : fs.root.Proper) {r : String} {names : List String}
    (hr : r ∈ roots) (hnames : names ∈ foundAt fs m depth r) :
    ∃ p ∈ addPaths [] (foundPaths fs m depth roots),
      components p = components (below r names) ∧ fs.resolve p = fs.resolve (below r names) := by
  have hfound : below r names ∈ foundPaths fs m depth roots :=
    List.mem_flatMap.2 ⟨r, hr, List.mem_map_of_mem hnames⟩
  obtain ⟨p, hp, hsame⟩ := List.mem_map.1
    (mem_components_addPaths.2 (Or.inr (List.mem_map_of_mem hfound)))
  obtain ⟨r', -, names', hnames', rfl⟩ := exists_of_mem_files hp
  obtain ⟨_, -, hp', -⟩ := resolve_of_mem_foundAt hproper hnames'
  obtain ⟨_, -, hq', -⟩ := resolve_of_mem_foundAt hproper hnames
  exact ⟨_, hp, hsame, by rw [hp', hq', FileSystem.resolve_congr hsame hp' hq']⟩

/-! ## Files, each one once -/

/-- No two of the paths lead to the same place. -/
def Once (fs : FileSystem) (files : List String) : Prop :=
  files.Pairwise fun p q => fs.resolve p ≠ fs.resolve q

/-- Wherever a root lies at or below another one, and a file is found from both,
    it is spelled as the path of the other one and the names between. -/
def Aligned (fs : FileSystem) (m : FileMatcher) (depth : Nat) (roots : List String) : Prop :=
  ∀ upper ∈ roots, ∀ lower ∈ roots, ∀ place between names,
    fs.resolve upper = .ok place → fs.resolve lower = .ok (place ++ between) →
    between ++ names ∈ foundAt fs m depth upper → names ∈ foundAt fs m depth lower →
    components lower = components upper ++ between.map .name

/-- Two paths in a list of which no two lead to the same place are one path if
    they do. -/
theorem Once.eq_of_resolve {files : List String} (h : Once fs files) {p q : String}
    (hp : p ∈ files) (hq : q ∈ files) (heq : fs.resolve p = fs.resolve q) : p = q := by
  by_contra hne
  have : Std.Symm fun p q => fs.resolve p ≠ fs.resolve q := ⟨fun _ _ hne => hne.symm⟩
  exact List.Pairwise.forall h hp hq hne heq

/-- **Each file is collected once** exactly if roots that find a common file are
    aligned. -/
theorem once_iff_aligned (hproper : fs.root.Proper) :
    Once fs (addPaths [] (foundPaths fs m depth roots)) ↔ Aligned fs m depth roots := by
  constructor
  · intro honce upper hupper lower hlower place between names hu hl hfu hfl
    obtain ⟨_, hu', hpu, hcu⟩ := resolve_of_mem_foundAt hproper hfu
    obtain ⟨_, hl', hpl, hcl⟩ := resolve_of_mem_foundAt hproper hfl
    obtain rfl := Except.ok.inj (hu.symm.trans hu')
    obtain rfl := Except.ok.inj (hl.symm.trans hl')
    -- both paths are there in some spelling, and lead to the same place
    obtain ⟨p, hp, hcp, hrp⟩ := exists_mem_files hproper hupper hfu
    obtain ⟨q, hq, hcq, hrq⟩ := exists_mem_files hproper hlower hfl
    have heq : p = q := honce.eq_of_resolve hp hq (by rw [hrp, hrq, hpu, hpl, List.append_assoc])
    rw [heq, hcq, hcl, hcu, List.map_append, ← List.append_assoc] at hcp
    exact List.append_cancel_right hcp
  · intro haligned
    have hnodup : ((addPaths [] (foundPaths fs m depth roots)).map components).Nodup :=
      nodup_addPaths _ List.nodup_nil
    refine (List.pairwise_map.1 hnodup).imp_of_mem fun {p q} hp hq hne heq => hne ?_
    obtain ⟨r, hr, names, hnames, rfl⟩ := exists_of_mem_files hp
    obtain ⟨r', hr', names', hnames', rfl⟩ := exists_of_mem_files hq
    obtain ⟨place, hplace, hp', hcp⟩ := resolve_of_mem_foundAt hproper hnames
    obtain ⟨place', hplace', hq', hcq⟩ := resolve_of_mem_foundAt hproper hnames'
    rw [hp', hq'] at heq
    -- of two places with a common place below them, one is below the other
    rcases List.append_eq_append_iff.1 (Except.ok.inj heq) with
      ⟨between, rfl, rfl⟩ | ⟨between, rfl, rfl⟩
    · have := haligned r hr r' hr' place between names' hplace hplace' hnames hnames'
      rw [hcp, hcq, this, List.map_append, List.append_assoc]
    · have := haligned r' hr' r hr place' between names hplace' hplace hnames' hnames
      rw [hcp, hcq, this, List.map_append, List.append_assoc]

/-- **Roots that are spelled from one start** with names only are aligned, as
    relative ones are that have no `.` and no `..`. -/
theorem aligned_of_start {start : List Component}
    (h : ∀ r ∈ roots, ∃ names : List String, components r = start ++ names.map .name) :
    Aligned fs m depth roots := by
  intro upper hupper lower hlower place between _ hu hl _ _
  obtain ⟨us, hus⟩ := h upper hupper
  obtain ⟨ls, hls⟩ := h lower hlower
  have hplace : ∀ {r place names}, fs.resolve r = .ok place →
      components r = start ++ names.map Component.name →
      place = start.foldl move fs.working ++ names := by
    intro r place names hr hnames
    rw [FileSystem.resolve_eq_ok hr, hnames, List.foldl_append, foldl_move_names]
  have hlower := hplace hl hls
  rw [hplace hu hus, List.append_assoc] at hlower
  rw [hls, ← List.append_cancel_left hlower, hus, List.map_append, List.append_assoc]

end InfraEvidence.Walk
