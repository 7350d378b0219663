/-
  InfraEvidence — the places that paths lead to.

  * `Path.IsName`: a text that is one name in a path;
  * `Path.components_below`: a path below another one has its components, and
    then the names;
  * `Path.fileName?_ofNames`: the name of a relative path is its last one;
  * `Path.move`: where one component leads from a place;
  * `FileSystem.resolve_eq_ok`: a path that leads somewhere leads to where its
    components do, and so does another spelling of it
    (`FileSystem.resolve_congr`);
  * `Node.Proper`: in every folder of a tree the names are names and differ;
  * `FileSystem.resolve_below`, `FileSystem.read_below`: a path below another
    one leads to the place below the other one's.
-/
import InfraEvidence.Files.Walk
import InfraEvidence.Proofs.Survey.Found
import Mathlib.Data.List.Basic
import Mathlib.Tactic.SplitIfs

namespace InfraEvidence

/-! ## Parts and components -/

namespace Path

/-- The text is one name in a path. -/
structure IsName (s : String) : Prop where
  ne_empty : s ≠ ""
  ne_here : s ≠ "."
  ne_up : s ≠ ".."
  no_slash : '/' ∉ s.toList

instance (s : String) : Decidable (IsName s) :=
  decidable_of_iff (s ≠ "" ∧ s ≠ "." ∧ s ≠ ".." ∧ '/' ∉ s.toList)
    ⟨fun h => ⟨h.1, h.2.1, h.2.2.1, h.2.2.2⟩, fun h => ⟨h.1, h.2, h.3, h.4⟩⟩

theorem IsName.component? {s : String} (h : IsName s) (isFirst : Bool) :
    component? isFirst s = some (.name s) := by
  rw [Path.component?, if_neg h.ne_empty, if_neg h.ne_here, if_neg h.ne_up]

theorem IsName.parts {s : String} (h : IsName s) : parts s = [s] := by
  simp [Path.parts, List.splitOn_eq_singleton h.no_slash]

theorem parts_ne_nil (p : String) : parts p ≠ [] := by
  simp [parts, List.splitOn_ne_nil]

theorem parts_append_slash (p q : String) : parts (p ++ "/" ++ q) = parts p ++ parts q := by
  have htext : (p ++ "/" ++ q).toList = p.toList ++ '/' :: q.toList := by simp
  rw [parts, htext, List.splitOn, List.splitOnP_append_cons _ _ (by simp), List.map_append]
  rfl

theorem eq_empty_of_parts {p : String} (h : parts p = [""]) : p = "" := by
  obtain ⟨cs, hsplit, hcs⟩ := List.map_eq_singleton_iff.1 h
  have hback : ['/'].intercalate (p.toList.splitOn '/') = p.toList :=
    List.intercalate_splitOn '/'
  rw [hsplit, String.ofList_eq_empty_iff.1 hcs] at hback
  exact String.toList_eq_nil_iff.1 hback.symm

/-- **The parts of a path with a name below it**: those of the path, without the
    empty one that a slash at its end leaves, and then the name. -/
theorem parts_join {p n : String} (hp : p ≠ "") (hn : IsName n) :
    ∃ qs, parts (join p n) = qs ++ [n] ∧ (parts p = qs ∨ parts p = qs ++ [""]) := by
  by_cases hend : p.toList.getLast? = some '/'
  · obtain ⟨s, hs⟩ := List.getLast?_eq_some_iff.1 hend
    have hslash : p = String.ofList s ++ "/" ++ "" := String.toList_inj.1 (by simp [hs])
    refine ⟨parts (String.ofList s), ?_, Or.inr ?_⟩
    · have htext : p ++ n = String.ofList s ++ "/" ++ n := String.toList_inj.1 (by simp [hs])
      rw [join, if_pos (Or.inr hend), htext, parts_append_slash, hn.parts]
    · rw [hslash, parts_append_slash]
      rfl
  · refine ⟨parts p, ?_, Or.inl rfl⟩
    rw [join, if_neg (by simp [hp, hend]), parts_append_slash, hn.parts]

theorem join_ne_empty {p n : String} (hn : IsName n) : join p n ≠ "" := by
  intro h
  have htext := congrArg String.toList h
  rw [join] at htext
  split at htext <;> simp [hn.ne_empty] at htext

theorem head?_join {p n : String} (hp : p ≠ "") :
    (join p n).toList.head? = p.toList.head? := by
  have hne : p.toList ≠ [] := fun h => hp (String.toList_eq_nil_iff.1 h)
  rw [join]
  split <;> simp [List.head?_append, List.head?_eq_some_head hne]

theorem head?_eq_slash_iff {p first : String} {rest : List String} (hp : p ≠ "")
    (h : parts p = first :: rest) : p.toList.head? = some '/' ↔ first = "" ∧ rest ≠ [] := by
  have hrest : first = "" → rest ≠ [] := fun hfirst hnil =>
    hp (eq_empty_of_parts (by rw [h, hfirst, hnil]))
  cases hs : p.toList with
  | nil => exact absurd (String.toList_eq_nil_iff.1 hs) hp
  | cons c s =>
    rw [parts, hs, List.splitOn, List.splitOnP_cons_eq_if_modifyHead] at h
    by_cases hc : c = '/'
    · subst hc
      simp only [beq_self_eq_true, if_true, List.map_cons, List.cons.injEq] at h
      obtain ⟨rfl, rfl⟩ := h
      simp [List.splitOnP_ne_nil]
    · obtain ⟨t, ts, hsplit⟩ := List.exists_cons_of_ne_nil (List.splitOnP_ne_nil (· == '/') s)
      rw [hsplit] at h
      simp only [beq_iff_eq, hc, if_false, List.modifyHead_cons, List.map_cons,
        List.cons.injEq] at h
      have hfirst : first ≠ "" := by
        rw [← h.1]
        simp
      simp [hc, hfirst]

theorem components_eq {p first : String} {rest : List String} (h : parts p = first :: rest) :
    components p = (if first = "" ∧ rest ≠ [] then [.root] else (component? true first).toList) ++
      rest.filterMap (component? false) := by
  simp only [components, h]

theorem components_join {p n : String} (hp : p ≠ "") (hn : IsName n) :
    components (join p n) = components p ++ [.name n] := by
  obtain ⟨qs, hjoin, hparts⟩ := parts_join hp hn
  cases qs with
  | nil =>
    rcases hparts with h | h
    · exact absurd h (parts_ne_nil p)
    · exact absurd (eq_empty_of_parts h) hp
  | cons first rest =>
    have hbelow : parts (join p n) = first :: (rest ++ [n]) := hjoin
    rw [components_eq hbelow, List.filterMap_append]
    rcases hparts with h | h
    · -- an empty first part has others after it, as the path is not empty
      have hrest : first = "" → rest ≠ [] := fun hfirst hnil =>
        hp (eq_empty_of_parts (by rw [h, hfirst, hnil]))
      rw [components_eq h]
      by_cases hfirst : first = "" <;> simp [hfirst, hrest, hn.component?]
    · have hslash : parts p = first :: (rest ++ [""]) := h
      rw [components_eq hslash, List.filterMap_append]
      have hempty : component? false "" = none := rfl
      simp [hempty, hn.component?]

/-- **The components of a path below another one** are its components, and then
    the names. -/
theorem components_below {p : String} {names : List String} (hp : p ≠ "")
    (hnames : ∀ n ∈ names, IsName n) :
    components (below p names) = components p ++ names.map .name := by
  induction names generalizing p with
  | nil => simp [below]
  | cons n names ih =>
    have hn := hnames n List.mem_cons_self
    have hrest := ih (join_ne_empty (p := p) hn) fun m hm => hnames m (List.mem_cons_of_mem n hm)
    rw [List.map_cons, List.append_cons, ← components_join hp hn]
    exact hrest

theorem parts_ofNames {names : List String} (hne : names ≠ []) (hnames : ∀ n ∈ names, IsName n) :
    parts (ofNames names) = names := by
  have hsplit : (ofNames names).toList.splitOn '/' = names.map String.toList := by
    rw [ofNames, String.toList_intercalate]
    refine List.splitOn_intercalate '/' ?_ (by simpa using hne)
    rw [List.forall_mem_map]
    exact fun n hn => (hnames n hn).no_slash
  rw [parts, hsplit, List.map_map]
  simp

/-- The name at the end of a relative path is the last one. -/
theorem fileName?_ofNames {names : List String} (hnames : ∀ n ∈ names, IsName n) :
    fileName? (ofNames names) = names.getLast? := by
  cases names with
  | nil => rfl
  | cons n names =>
    have hn := hnames n List.mem_cons_self
    have hrest : names.filterMap (component? false) = names.map .name :=
      List.filterMap_eq_map_iff_forall_eq_some.2 fun m hm =>
        (hnames m (List.mem_cons_of_mem n hm)).component? false
    have hall : components (ofNames (n :: names)) = (n :: names).map .name := by
      rw [components_eq (parts_ofNames (List.cons_ne_nil n names) hnames), hrest,
        if_neg fun h => hn.ne_empty h.1, hn.component?]
      rfl
    rw [fileName?, hall, List.getLast?_map]
    cases hlast : (n :: names).getLast? with
    | none => simp at hlast
    | some last => rfl

/-- The place that a component leads to from a place. -/
def move (place : List String) : Component → List String
  | .root => []
  | .here => place
  | .up => place.dropLast
  | .name s => place ++ [s]

theorem foldl_move_names (place names : List String) :
    (names.map Component.name).foldl move place = place ++ names := by
  induction names generalizing place with
  | nil => simp
  | cons n names ih => simp [move, ih]

end Path

/-! ## Places -/

/-- In every folder of the tree the names are names, and they differ. -/
inductive Node.Proper : Node → Prop where
  | file (bytes : List UInt8) : Node.Proper (.file bytes)
  | folder (children : List (String × Node)) (nodup : (children.map Prod.fst).Nodup)
      (names : ∀ c ∈ children, Path.IsName c.1) (nodes : ∀ c ∈ children, Node.Proper c.2) :
      Node.Proper (.folder children)

namespace Node

theorem Proper.nil : (Node.folder []).Proper := .folder [] List.nodup_nil (by simp) (by simp)

theorem Proper.cons {name : String} {n : Node} {children : List (String × Node)}
    (hname : Path.IsName name) (hnew : name ∉ children.map Prod.fst) (hn : n.Proper)
    (h : (Node.folder children).Proper) : (Node.folder ((name, n) :: children)).Proper := by
  cases h with
  | folder _ hnodup hnames hnodes =>
    exact .folder _ (List.nodup_cons.2 ⟨hnew, hnodup⟩) (List.forall_mem_cons.2 ⟨hname, hnames⟩)
      (List.forall_mem_cons.2 ⟨hn, hnodes⟩)

theorem at?_append (n : Node) (names more : List String) :
    n.at? (names ++ more) = (n.at? names).bind (·.at? more) := by
  induction names generalizing n with
  | nil => rfl
  | cons name names ih =>
    cases hchild : n.children.lookup name with
    | none => simp [at?, hchild]
    | some c => simp [at?, hchild, ih]

theorem at?_cons_eq_some {n m : Node} {name : String} {names : List String}
    (h : n.at? (name :: names) = some m) :
    ∃ children c, n = .folder children ∧ children.lookup name = some c ∧ c.at? names = some m := by
  obtain ⟨c, hchild, hc⟩ := Option.bind_eq_some_iff.1 h
  cases n with
  | file bytes => contradiction
  | folder children => exact ⟨children, c, rfl, hchild, hc⟩

/-- What lies in a proper tree is proper, and the way to it has names only. -/
theorem Proper.at? {n m : Node} {names : List String} (hn : n.Proper)
    (h : n.at? names = some m) : m.Proper ∧ ∀ s ∈ names, Path.IsName s := by
  induction names generalizing n with
  | nil =>
    obtain rfl := Option.some.inj h
    exact ⟨hn, by simp⟩
  | cons name names ih =>
    obtain ⟨children, c, rfl, hchild, hc⟩ := at?_cons_eq_some h
    have hmem := Dict.mem_of_lookup hchild
    cases hn with
    | folder _ _ hnames hnodes =>
      obtain ⟨hm, hrest⟩ := ih (hnodes _ hmem) hc
      exact ⟨hm, List.forall_mem_cons.2 ⟨hnames _ hmem, hrest⟩⟩

end Node

namespace FileSystem

open InfraEvidence.Path

theorem follow_append (root : Node) (place ps qs : List String) :
    follow root place (ps ++ qs) = follow root place ps >>= fun q => follow root q qs := by
  induction ps generalizing place with
  | nil => rfl
  | cons part ps ih =>
    simp only [List.cons_append, follow]
    split
    · split_ifs <;> first | exact ih _ | rfl
    · rfl
    · rfl

/-- Following the parts of a path is moving by what they stand for. -/
theorem follow_eq_ok {root : Node} {place ps q : List String} (h : follow root place ps = .ok q) :
    q = (ps.filterMap (component? false)).foldl move place := by
  induction ps generalizing place with
  | nil => exact (Except.ok.inj h).symm
  | cons part ps ih =>
    simp only [follow] at h
    split at h
    · split_ifs at h with hhere hup hname
      · have hnone : component? false part = none := by
          rcases hhere with rfl | rfl <;> rfl
        rw [ih h, List.filterMap_cons_none hnone]
      · have hcomponent : component? false part = some .up := by subst hup; rfl
        rw [ih h, List.filterMap_cons_some hcomponent]
        rfl
      · have hcomponent : component? false part = some (.name part) := by
          rw [component?, if_neg fun e => hhere (Or.inl e), if_neg fun e => hhere (Or.inr e),
            if_neg hup]
        rw [ih h, List.filterMap_cons_some hcomponent]
        rfl
    · contradiction
    · contradiction

variable {fs : FileSystem}

theorem ne_empty_of_resolve {p : String} {place : List String} (h : fs.resolve p = .ok place) :
    p ≠ "" := by
  rintro rfl
  contradiction

theorem resolve_of_ne {p : String} (hp : p ≠ "") :
    fs.resolve p = follow fs.root (fs.startOf p) (parts p) := if_neg hp

/-- **A path that leads somewhere** leads to where its components lead from the
    working folder. -/
theorem resolve_eq_ok {p : String} {place : List String} (h : fs.resolve p = .ok place) :
    place = (components p).foldl move fs.working := by
  have hp := ne_empty_of_resolve h
  rw [resolve_of_ne hp] at h
  obtain ⟨first, rest, hparts⟩ := List.exists_cons_of_ne_nil (parts_ne_nil p)
  have hslash := head?_eq_slash_iff hp hparts
  rw [hparts] at h
  rw [follow_eq_ok h, components_eq hparts, List.foldl_append, startOf]
  by_cases hroot : p.toList.head? = some '/'
  · obtain ⟨rfl, hrest⟩ := hslash.1 hroot
    rw [if_pos hroot, if_pos ⟨rfl, hrest⟩]
    rfl
  · rw [if_neg hroot, if_neg fun hfirst => hroot (hslash.2 hfirst)]
    by_cases hdot : first = "."
    · subst hdot
      rfl
    · have hsame : component? false first = component? true first := by
        simp [component?, hdot]
      rw [List.filterMap_cons, hsame]
      cases component? true first <;> rfl

/-- Two spellings of one path lead to the same place, if they lead somewhere. -/
theorem resolve_congr {p q : String} {place other : List String}
    (hsame : components p = components q) (hp : fs.resolve p = .ok place)
    (hq : fs.resolve q = .ok other) : place = other := by
  rw [resolve_eq_ok hp, resolve_eq_ok hq, hsame]

theorem resolve_join {p n : String} {place : List String} {children : List (String × Node)}
    {c : Node} (hp : fs.resolve p = .ok place) (hfolder : fs.root.at? place = some (.folder children))
    (hchild : children.lookup n = some c) (hn : IsName n) :
    fs.resolve (join p n) = .ok (place ++ [n]) := by
  have hne := ne_empty_of_resolve hp
  have hstart : fs.startOf (join p n) = fs.startOf p := by
    rw [startOf, startOf, head?_join hne]
  have hone : follow fs.root place [n] = .ok (place ++ [n]) := by
    simp [follow, hfolder, hn.ne_empty, hn.ne_here, hn.ne_up, hchild]
  obtain ⟨qs, hjoin, hparts⟩ := parts_join hne hn
  rw [resolve_of_ne hne] at hp
  rw [resolve_of_ne (join_ne_empty hn), hstart, hjoin, follow_append]
  rcases hparts with h | h
  · rw [← h, hp]
    exact hone
  · -- a slash at the end leads to the folder before it
    rw [h, follow_append] at hp
    obtain ⟨folder, hqs, hlast⟩ := bind_eq_ok.1 hp
    have hsame : folder = place := by
      rw [follow_eq_ok hlast]
      rfl
    rw [hqs, hsame]
    exact hone

/-- **A path below another one** leads to the place below the other one's. -/
theorem resolve_below {p : String} {place names : List String} {n m : Node}
    (hp : fs.resolve p = .ok place) (hn : fs.root.at? place = some n) (hproper : n.Proper)
    (hm : n.at? names = some m) : fs.resolve (below p names) = .ok (place ++ names) := by
  induction names generalizing p place n with
  | nil => simpa [below] using hp
  | cons name names ih =>
    obtain ⟨children, c, rfl, hchild, hc⟩ := Node.at?_cons_eq_some hm
    have hmem := Dict.mem_of_lookup hchild
    have hnext : fs.root.at? (place ++ [name]) = some c := by
      rw [Node.at?_append, hn]
      simp [Node.at?, Node.children, hchild]
    cases hproper with
    | folder _ _ hnames hnodes =>
      rw [List.append_cons]
      exact ih (resolve_join hp hn hchild (hnames _ hmem)) hnext (hnodes _ hmem) hc

theorem node_eq_ok {p : String} {n : Node} :
    fs.node p = .ok n ↔ ∃ place, fs.resolve p = .ok place ∧ fs.root.at? place = some n := by
  unfold node
  rw [bind_eq_ok]
  refine exists_congr fun place => and_congr_right fun _ => ?_
  cases fs.root.at? place <;> simp

theorem node_below {p : String} {names : List String} {n m : Node} (hp : fs.node p = .ok n)
    (hproper : n.Proper) (hm : n.at? names = some m) : fs.node (below p names) = .ok m := by
  obtain ⟨place, hplace, hn⟩ := node_eq_ok.1 hp
  refine node_eq_ok.2 ⟨_, resolve_below hplace hn hproper hm, ?_⟩
  rw [Node.at?_append, hn, Option.bind_some, hm]

/-- The path of a file below another path reads that file. -/
theorem read_below {p : String} {names : List String} {n : Node} {bytes : List UInt8}
    (hp : fs.node p = .ok n) (hproper : n.Proper) (hm : n.at? names = some (.file bytes)) :
    fs.read (below p names) = .ok bytes := by
  rw [read, node_below hp hproper hm]
  rfl

end FileSystem

end InfraEvidence
