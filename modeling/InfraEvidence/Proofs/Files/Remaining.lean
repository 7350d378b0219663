/-
  InfraEvidence — what is found in a tree without one of its files.

  * `Walk.addPaths_filter`: paths are put together in the same way when all
    spellings of some are left out;
  * `Walk.foundAt_without`: the same files are found from a root, but for the
    one that is gone;
  * `Walk.collectAll_without`: and so from several roots, if they still exist.
-/
import InfraEvidence.Proofs.Files.Erased
import InfraEvidence.Proofs.Files.Overlap

namespace InfraEvidence.Walk

open InfraEvidence.Path

/-- Leaving out paths, all spellings of one together, may be done before or
    after the paths are put together. -/
theorem addPaths_filter {keep : String → Bool} {acc new : List String}
    (h : ∀ p ∈ acc ++ new, ∀ q ∈ acc ++ new, components p = components q → keep p = keep q) :
    addPaths (acc.filter keep) (new.filter keep) = (addPaths acc new).filter keep := by
  induction new generalizing acc with
  | nil => rfl
  | cons p new ih =>
    have hnext : ∀ acc', (∀ q ∈ acc', q ∈ acc ∨ q = p) → addPaths (acc'.filter keep)
        (new.filter keep) = (addPaths acc' new).filter keep := by
      intro acc' hacc
      have hmem : ∀ q ∈ acc' ++ new, q ∈ acc ++ p :: new := by
        intro q hq
        rcases List.mem_append.1 hq with hq | hq
        · rcases hacc q hq with hq | rfl
          · exact List.mem_append_left _ hq
          · simp
        · simp [hq]
      exact ih fun q hq r hr => h q (hmem q hq) r (hmem r hr)
    -- a path that is kept has a spelling among those kept if it has one at all
    have hany : keep p = true → (acc.filter keep).any (same p) = acc.any (same p) := by
      intro hp
      rw [Bool.eq_iff_iff, any_same_iff, any_same_iff, List.mem_map, List.mem_map]
      constructor
      · rintro ⟨q, hq, hsame⟩
        exact ⟨q, (List.mem_filter.1 hq).1, hsame⟩
      · rintro ⟨q, hq, hsame⟩
        refine ⟨q, List.mem_filter.2 ⟨hq, ?_⟩, hsame⟩
        rw [h q (by simp [hq]) p (by simp) hsame, hp]
    rw [addPaths_cons]
    by_cases hp : keep p = true
    · rw [List.filter_cons_of_pos hp, addPaths_cons, hany hp]
      split
      · exact hnext acc fun q hq => Or.inl hq
      · have happend : acc.filter keep ++ [p] = (acc ++ [p]).filter keep := by simp [hp]
        rw [happend]
        exact hnext _ fun q hq => by simpa using hq
    · rw [List.filter_cons_of_neg hp]
      split
      · exact hnext acc fun q hq => Or.inl hq
      · have happend : acc.filter keep = (acc ++ [p]).filter keep := by simp [hp]
        rw [happend]
        exact hnext _ fun q hq => by simpa using hq

variable {fs : FileSystem} {gone : List String} {bytes : List UInt8} {m : FileMatcher} {depth : Nat}
  {s : ScanSettings} {further roots : List String}

/-- The path leads elsewhere than to the file that is gone. -/
def leadsElsewhere (fs : FileSystem) (gone : List String) (p : String) : Bool :=
  fs.resolve p ≠ .ok gone

theorem leadsElsewhere_iff {p : String} {place : List String} (h : fs.resolve p = .ok place) :
    leadsElsewhere fs gone p = true ↔ place ≠ gone := by
  simp [leadsElsewhere, h]

/-- **What is found from a root** in the tree without a file: all but this file. -/
theorem foundAt_without (hproper : fs.root.Proper) (hne : gone ≠ [])
    (hgone : fs.root.at? gone = some (.file bytes)) {root : String} {n' : Node}
    (hroot : (fs.without gone).node root = .ok n') :
    foundAt (fs.without gone) m depth root =
      (foundAt fs m depth root).filter fun names => leadsElsewhere fs gone (below root names) := by
  obtain ⟨place, n, hresolve, hplace, hat, hat', hbelow⟩ :=
    FileSystem.node_without hne hgone hroot
  have hn := (hproper.at? hat).1
  have hn' : n'.Proper := ((hproper.erase hgone).at? hat').1
  have hkeep : ∀ {names bs}, n.at? names = some (.file bs) →
      (leadsElsewhere fs gone (below root names) = true ↔ place ++ names ≠ gone) :=
    fun h => leadsElsewhere_iff (FileSystem.resolve_below hresolve hat hn h)
  have hnode : fs.node root = .ok n := FileSystem.node_eq_ok.2 ⟨place, hresolve, hat⟩
  rw [foundAt, foundAt, hroot, hnode]
  have hfirst := hbelow []
  rw [List.append_nil, if_neg hplace] at hfirst
  cases n with
  | file bs =>
    obtain rfl : n' = .file bs := by
      cases n' <;> simp_all [Node.look?, Node.at?, Node.entry]
    have hroot : leadsElsewhere fs gone (below root []) = true := by
      rw [hkeep rfl, List.append_nil]
      exact hplace
    dsimp only [foundFrom]
    split
    · simp [hroot]
    · rfl
  | folder children =>
    obtain ⟨children', rfl⟩ : ∃ cs, n' = .folder cs := by
      cases n' with
      | file bs => simp [Node.look?, Node.at?, Node.entry] at hfirst
      | folder cs => exact ⟨cs, rfl⟩
    dsimp only [foundFrom]
    refine selected_eq ?_ (selected_sorted.sublist List.filter_sublist)
    refine (List.perm_ext_iff_of_nodup ((Node.nodup_filesBelow hn' depth).filter _)
      ((nodup_selected hn).filter _)).2 fun names => ?_
    rw [List.mem_filter, List.mem_filter, mem_selected, Node.mem_filesBelow hn,
      Node.mem_filesBelow hn']
    simp only [← Node.look?_eq_file, hbelow]
    constructor
    · rintro ⟨⟨hdepth, hvisible, bs, hfile⟩, hselects⟩
      split at hfile
      · contradiction
      · next hother =>
        exact ⟨⟨⟨hdepth, hvisible, bs, hfile⟩, hselects⟩,
          (hkeep (Node.look?_eq_file.1 hfile)).2 hother⟩
    · rintro ⟨⟨⟨hdepth, hvisible, bs, hfile⟩, hselects⟩, hother⟩
      refine ⟨⟨hdepth, hvisible, bs, ?_⟩, hselects⟩
      rw [if_neg ((hkeep (Node.look?_eq_file.1 hfile)).1 hother)]
      exact hfile

theorem foundPaths_without (hproper : fs.root.Proper) (hne : gone ≠ [])
    (hgone : fs.root.at? gone = some (.file bytes))
    (hroots : ∀ r ∈ roots, ∃ n, (fs.without gone).node r = .ok n) :
    foundPaths (fs.without gone) m depth roots =
      (foundPaths fs m depth roots).filter (leadsElsewhere fs gone) := by
  induction roots with
  | nil => rfl
  | cons r roots ih =>
    obtain ⟨⟨n, hn⟩, hroots⟩ := List.forall_mem_cons.1 hroots
    rw [foundPaths, foundPaths, List.flatMap_cons, List.flatMap_cons, List.filter_append,
      List.filter_map, foundAt_without hproper hne hgone hn]
    exact congrArg _ (ih hroots)

/-- **The files below several roots** in the tree without a file: all but the
    paths of this file, if the roots still exist. -/
theorem collectAll_without (hproper : fs.root.Proper) (hne : gone ≠ [])
    (hgone : fs.root.at? gone = some (.file bytes))
    (hm : FileMatcher.ofSettings s further = .ok m)
    (hroots : ∀ r ∈ roots, ∃ n, (fs.without gone).node r = .ok n) :
    collectAll (fs.without gone) s further roots =
      .ok ((addPaths [] (foundPaths fs m s.maxDepth roots)).filter (leadsElsewhere fs gone)) := by
  rw [collectAll_eq hroots hm, foundPaths_without hproper hne hgone hroots]
  refine congrArg Except.ok (@addPaths_filter _ [] _ fun p hp q hq hsame => ?_)
  -- two spellings of one path lead to the same place
  have hplace : ∀ p ∈ foundPaths fs m s.maxDepth roots, ∃ place, fs.resolve p = .ok place := by
    intro p hp
    obtain ⟨r, -, hp⟩ := List.mem_flatMap.1 hp
    obtain ⟨names, hnames, rfl⟩ := List.mem_map.1 hp
    obtain ⟨place, -, hresolve, -⟩ := resolve_of_mem_foundAt hproper hnames
    exact ⟨_, hresolve⟩
  obtain ⟨place, hp⟩ := hplace p hp
  obtain ⟨place', hq⟩ := hplace q hq
  rw [leadsElsewhere, leadsElsewhere, hp, hq, FileSystem.resolve_congr hsame hp hq]

end InfraEvidence.Walk
