/-
  InfraEvidence — plain paths.

  * `Path.Plain`: between the slashes of a path there are names only, so that
    nothing is spelled in two ways (`Path.Plain.eq_of_components`);
  * `Path.Plain.below`: the paths below a plain one are plain;
  * `Walk.perm_files`: plain roots find the same files in any order.
-/
import InfraEvidence.Proofs.Files.Overlap

namespace InfraEvidence

open InfraEvidence.Path

namespace Path

/-- Nothing is empty, `.` or `..` between the slashes of the path. -/
def Plain (p : String) : Prop := ∀ part ∈ parts p, part ≠ "" ∧ part ≠ "." ∧ part ≠ ".."

instance (p : String) : Decidable (Plain p) :=
  inferInstanceAs (Decidable (∀ part ∈ parts p, part ≠ "" ∧ part ≠ "." ∧ part ≠ ".."))

theorem ofNames_parts (p : String) : ofNames (parts p) = p := by
  have htext : (ofNames (parts p)).toList = ['/'].intercalate (p.toList.splitOn '/') := by
    rw [ofNames, String.toList_intercalate, parts, List.map_map]
    simp
  rw [← String.toList_inj, htext, List.intercalate_splitOn]

namespace Plain
variable {p q : String}

theorem ne_empty (hp : Plain p) : p ≠ "" := by
  rintro rfl
  exact (hp "" List.mem_cons_self).1 rfl

theorem components (hp : Plain p) : components p = (parts p).map .name := by
  have hone : ∀ part ∈ parts p, ∀ isFirst, component? isFirst part = some (.name part) := by
    intro part hpart isFirst
    obtain ⟨hne, hhere, hup⟩ := hp part hpart
    rw [component?, if_neg hne, if_neg hhere, if_neg hup]
  obtain ⟨first, rest, hparts⟩ := List.exists_cons_of_ne_nil (parts_ne_nil p)
  have hfirst : first ∈ parts p := hparts ▸ List.mem_cons_self
  have hrest : rest.filterMap (component? false) = rest.map .name :=
    List.filterMap_eq_map_iff_forall_eq_some.2 fun part hpart =>
      hone part (hparts ▸ List.mem_cons_of_mem first hpart) false
  rw [components_eq hparts, if_neg fun h => (hp first hfirst).1 h.1, hone first hfirst, hrest,
    hparts]
  rfl

/-- **A plain path is spelled in one way.** -/
theorem eq_of_components (hp : Plain p) (hq : Plain q)
    (h : Path.components p = Path.components q) : p = q := by
  rw [hp.components, hq.components] at h
  have hparts : parts p = parts q :=
    List.map_injective_iff.2 (fun a b heq => Component.name.inj heq) h
  rw [← ofNames_parts p, hparts, ofNames_parts]

theorem join {n : String} (hp : Plain p) (hn : IsName n) : Plain (join p n) := by
  obtain ⟨qs, hjoin, hparts⟩ := parts_join hp.ne_empty hn
  -- a plain path has no slash at its end
  have hqs : parts p = qs := by
    refine hparts.resolve_right fun hslash => ?_
    exact (hp "" (by simp [hslash])).1 rfl
  intro part hpart
  rw [hjoin, ← hqs] at hpart
  rcases List.mem_append.1 hpart with hpart | hpart
  · exact hp part hpart
  · obtain rfl := List.mem_singleton.1 hpart
    exact ⟨hn.ne_empty, hn.ne_here, hn.ne_up⟩

theorem below {names : List String} (hp : Plain p) (hnames : ∀ n ∈ names, IsName n) :
    Plain (below p names) := by
  induction names generalizing p with
  | nil => exact hp
  | cons n names ih =>
    obtain ⟨hn, hnames⟩ := List.forall_mem_cons.1 hnames
    exact ih (hp.join hn) hnames

end Plain

end Path

namespace Walk

variable {fs : FileSystem} {m : FileMatcher} {depth : Nat} {roots roots' : List String}

theorem plain_of_mem_files (hproper : fs.root.Proper) (hroots : ∀ r ∈ roots, Plain r) {p : String}
    (hp : p ∈ addPaths [] (foundPaths fs m depth roots)) : Plain p := by
  obtain ⟨r, hr, names, hnames, rfl⟩ := exists_of_mem_files hp
  obtain ⟨_, _, _, -, -, hn, hfile⟩ := file_of_mem_foundAt hproper hnames
  exact (hroots r hr).below (hn.at? hfile).2

/-- **Plain roots in any order** find the same paths. -/
theorem perm_files (hproper : fs.root.Proper) (hroots : ∀ r ∈ roots, Plain r)
    (hperm : roots.Perm roots') :
    (addPaths [] (foundPaths fs m depth roots)).Perm
      (addPaths [] (foundPaths fs m depth roots')) := by
  have hroots' : ∀ r ∈ roots', Plain r := fun r hr => hroots r (hperm.mem_iff.2 hr)
  have hnodup : ∀ rs, (addPaths [] (foundPaths fs m depth rs)).Nodup := fun rs =>
    .of_map _ (nodup_addPaths _ List.nodup_nil)
  have hsub : ∀ {rs rs' : List String}, rs.Perm rs' → (∀ r ∈ rs, Plain r) → (∀ r ∈ rs', Plain r) →
      ∀ p ∈ addPaths [] (foundPaths fs m depth rs),
        p ∈ addPaths [] (foundPaths fs m depth rs') := by
    intro rs rs' hperm hrs hrs' p hp
    have hfound : Path.components p ∈ (foundPaths fs m depth rs').map Path.components := by
      have hmem := (mem_components_addPaths.1 (List.mem_map_of_mem hp)).resolve_left (by simp)
      exact ((hperm.flatMap_right _).map _).mem_iff.1 hmem
    have hkept : Path.components p ∈ (addPaths [] (foundPaths fs m depth rs')).map Path.components :=
      mem_components_addPaths.2 (Or.inr hfound)
    obtain ⟨q, hq, hsame⟩ := List.mem_map.1 hkept
    rwa [← Plain.eq_of_components (plain_of_mem_files hproper hrs' hq)
      (plain_of_mem_files hproper hrs hp) hsame]
  exact (List.perm_ext_iff_of_nodup (hnodup _) (hnodup _)).2 fun p =>
    ⟨hsub hperm hroots hroots' p, hsub hperm.symm hroots' hroots p⟩

end Walk

end InfraEvidence
