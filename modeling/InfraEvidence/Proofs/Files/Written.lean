/-
  InfraEvidence — trees into which a file is written.

  * `Node.look?_set`: a file that is put below a folder is the one entry that
    changes;
  * `FileSystem.follow_of_folders`: where the folders stay, the ways through them
    do;
  * `FileSystem.Slot`: where the file that a path names stands, or would;
  * `FileSystem.Wrote`: a tree with a file written, which is otherwise as it was;
  * `FileSystem.wrote_of_write`: that is what writing does.
-/
import InfraEvidence.Proofs.Files.Erased
import Mathlib.Data.List.TakeDrop

namespace InfraEvidence

open InfraEvidence.Path

namespace Node

theorem at?_singleton (children : List (String × Node)) (name : String) :
    (Node.folder children).at? [name] = children.lookup name := by
  cases h : children.lookup name <;> simp [at?, Node.children, h]

theorem look?_eq_folder {n : Node} {names : List String} :
    n.look? names = some .folder ↔ ∃ children, n.at? names = some (.folder children) := by
  rw [look?]
  cases n.at? names with
  | none => simp
  | some m => cases m <;> simp [entry]

theorem look?_set_child {children : List (String × Node)} {name : String} {bytes : List UInt8}
    (hname : (Node.folder children).look? [name] ≠ some .folder) (names : List String) :
    ((Node.folder children).set [name] (.file bytes)).look? names =
      if names = [name] then some (.file bytes) else (Node.folder children).look? names := by
  cases names with
  | nil => rfl
  | cons other names =>
    rw [set, set, look?, look?, at?_cons, at?_cons, Node.children, Node.children, lookup_setChild]
    by_cases hother : other = name
    · subst hother
      cases names with
      | nil => simp [at?, entry]
      | cons next names =>
        -- nothing stood below the name, as no folder was there
        have hbelow : (children.lookup other).bind (·.at? (next :: names)) = none := by
          cases hchild : children.lookup other with
          | none => rfl
          | some c =>
            cases c with
            | file old => rfl
            | folder cs => simp [look?, at?_singleton, hchild, entry] at hname
        rw [hbelow]
        simp [at?_file_cons]
    · simp [hother]

/-- **A file below a folder** is one entry of the tree, and where no folder stood
    before, the only one that changes. -/
theorem look?_set {n : Node} {place : List String} {name : String} {bytes : List UInt8}
    (hplace : n.look? place = some .folder) (hname : n.look? (place ++ [name]) ≠ some .folder)
    (names : List String) :
    (n.set (place ++ [name]) (.file bytes)).look? names =
      if names = place ++ [name] then some (.file bytes) else n.look? names := by
  obtain ⟨children, hat⟩ := look?_eq_folder.1 hplace
  rw [look?_append hat] at hname
  clear hplace
  induction place generalizing n names with
  | nil =>
    obtain rfl := Option.some.inj hat
    exact look?_set_child hname names
  | cons first place ih =>
    obtain ⟨cs, c, rfl, hchild, hc⟩ := at?_cons_eq_some hat
    cases names with
    | nil => rfl
    | cons other names =>
      rw [List.cons_append, set, look?, look?, at?_cons, at?_cons, Node.children, Node.children,
        lookup_setChild, hchild]
      by_cases hother : other = first
      · subst hother
        simpa [hchild, look?] using ih names hc
      · simp [hother]

end Node

namespace FileSystem

/-! ## Ways through folders -/

theorem look?_of_follow {n : Node} {place parts q : List String} (h : follow n place parts = .ok q)
    (hq : n.look? q = some .folder) : n.look? place = some .folder := by
  cases parts with
  | nil => exact Except.ok.inj h ▸ hq
  | cons part parts =>
    rw [follow_cons] at h
    split at h
    · assumption
    · contradiction
    · contradiction

/-- **Where the folders stay, the ways through them do.** -/
theorem follow_of_folders {n m : Node}
    (hfolders : ∀ names, n.look? names = some .folder → m.look? names = some .folder)
    {place parts q : List String} (h : follow n place parts = .ok q)
    (hq : n.look? q = some .folder) : follow m place parts = .ok q := by
  induction parts generalizing place with
  | nil => exact h
  | cons part parts ih =>
    have hplace := look?_of_follow h hq
    rw [follow_cons, hplace] at h
    rw [follow_cons, hfolders _ hplace]
    simp only at h ⊢
    split_ifs at h with hhere hup hname
    · rw [if_pos hhere]
      exact ih h
    · rw [if_neg hhere, if_pos hup]
      exact ih h
    · have hnext := hfolders _ (look?_of_follow h hq)
      rw [if_neg hhere, if_neg hup, hnext, Option.isSome_some, if_pos rfl]
      exact ih h

/-! ## Where a file is written -/

variable {fs : FileSystem} {path name : String} {here : List String}

/-- The path names a file, or nothing yet, below a folder that is there. -/
structure Slot (fs : FileSystem) (path : String) (here : List String) (name : String) : Prop where
  ne_empty : path ≠ ""
  ne_slash : name ≠ ""
  ne_here : name ≠ "."
  ne_up : name ≠ ".."
  leads : ∃ folders, Path.parts path = folders ++ [name] ∧
    follow fs.root (fs.startOf path) folders = .ok here
  folder : fs.root.look? here = some .folder
  no_folder : fs.root.look? (here ++ [name]) ≠ some .folder

/-- A path without slashes at its end has a last part, behind which nothing is cut. -/
theorem parts_of_span {parts last rest : List String} {name : String}
    (h : parts.reverse.span (· = "") = (last, name :: rest)) (hlast : last = []) :
    parts = rest.reverse ++ [name] ∧ name ≠ "" := by
  rw [List.span_eq_takeWhile_dropWhile, Prod.mk.injEq] at h
  obtain ⟨hblank, hrest⟩ := h
  have hall : parts.reverse = name :: rest := by
    rw [← List.takeWhile_append_dropWhile (p := (· = "")) (l := parts.reverse), hblank, hrest, hlast]
    rfl
  refine ⟨by simpa using congrArg List.reverse hall, fun hname => ?_⟩
  rw [hall, hname, hlast] at hblank
  simp at hblank

/-- **A place for a file** is below a folder. -/
theorem placeFor_eq_ok {place : List String} (h : fs.placeFor path = .ok place) :
    ∃ here name, place = here ++ [name] ∧ Slot fs path here name := by
  unfold placeFor at h
  split at h
  next last front hspan =>
  dsimp only at h
  split at h
  · cases h
  split at h
  · cases h
  next hempty _ name folders =>
  obtain ⟨here, hleads, h⟩ := bind_eq_ok.1 h
  split at h
  · next children hhere =>
    split at h
    · cases h
    next hname =>
    split at h
    · cases h
    next hchild =>
    simp only [not_or, ne_eq, not_not] at hname
    obtain ⟨hparts, hslash⟩ := parts_of_span hspan hname.1
    refine ⟨here, name, (Except.ok.inj h).symm, hempty, hslash, hname.2.1, hname.2.2,
      ⟨folders.reverse, hparts, hleads⟩, Node.look?_eq_folder.2 ⟨children, hhere⟩, ?_⟩
    rw [Node.look?_append hhere, Ne, Node.look?_eq_folder, Node.at?_singleton]
    exact fun ⟨cs, hcs⟩ => hchild cs hcs
  · cases h
  · cases h

/-- If something stands there, the path leads to it. -/
theorem Slot.resolve (h : Slot fs path here name)
    (hentry : (fs.root.look? (here ++ [name])).isSome = true) :
    fs.resolve path = .ok (here ++ [name]) := by
  obtain ⟨folders, hparts, hleads⟩ := h.leads
  rw [resolve_of_ne h.ne_empty, hparts, follow_append, hleads]
  show follow fs.root here [name] = .ok (here ++ [name])
  rw [follow_cons, h.folder]
  simp only
  rw [if_neg (not_or.2 ⟨h.ne_slash, h.ne_here⟩), if_neg h.ne_up, if_pos hentry]
  rfl

/-- Nothing stands there if the path leads nowhere. -/
theorem Slot.look?_eq_none (h : Slot fs path here name) (hpath : fs.hasPath path = false) :
    fs.root.look? (here ++ [name]) = none := by
  cases hentry : fs.root.look? (here ++ [name]) with
  | none => rfl
  | some e =>
    have hresolve := h.resolve (by rw [hentry, Option.isSome_some])
    cases hat : fs.root.at? (here ++ [name]) with
    | none => simp [Node.look?, hat] at hentry
    | some n =>
      have hnode : fs.node path = .ok n := node_eq_ok.2 ⟨_, hresolve, hat⟩
      simp [hasPath, hnode, Except.isOk, Except.toBool] at hpath

/-- The tree with the bytes given in the file at `place`, to which the path leads;
    everything else is as it was. -/
structure Wrote (fs fs' : FileSystem) (path : String) (place : List String)
    (bytes : List UInt8) : Prop where
  working : fs'.working = fs.working
  leads : fs'.resolve path = .ok place
  entries : ∀ names,
    fs'.root.look? names = if names = place then some (.file bytes) else fs.root.look? names

/-- The path reads what was written. -/
theorem Wrote.read {fs' : FileSystem} {place : List String} {bytes : List UInt8}
    (h : Wrote fs fs' path place bytes) : fs'.read path = .ok bytes := by
  have hentry := h.entries place
  rw [if_pos rfl, Node.look?_eq_file] at hentry
  exact read_eq_ok.2 ⟨place, h.leads, hentry⟩

theorem Slot.wrote (h : Slot fs path here name) (bytes : List UInt8) :
    Wrote fs (fs.withFile (here ++ [name]) bytes) path (here ++ [name]) bytes := by
  have hentries : ∀ names, (fs.withFile (here ++ [name]) bytes).root.look? names =
      if names = here ++ [name] then some (.file bytes) else fs.root.look? names :=
    Node.look?_set h.folder h.no_folder
  -- the folders are the same, so that the path leads to the same place
  have hfolders : ∀ names, fs.root.look? names = some .folder →
      (fs.withFile (here ++ [name]) bytes).root.look? names = some .folder := by
    intro names hnames
    have hne : names ≠ here ++ [name] := fun heq => h.no_folder (heq ▸ hnames)
    rw [hentries, if_neg hne, hnames]
  obtain ⟨folders, hparts, hleads⟩ := h.leads
  refine ⟨rfl, Slot.resolve ⟨h.ne_empty, h.ne_slash, h.ne_here, h.ne_up, ⟨folders, hparts, ?_⟩,
    hfolders _ h.folder, ?_⟩ ?_, hentries⟩
  · exact follow_of_folders hfolders hleads h.folder
  · simp [hentries]
  · simp [hentries]

/-- **What writing does**: the file that the path names has the bytes given, and
    everything else is as it was.  A path that led nowhere names a new file. -/
theorem wrote_of_write {fs' : FileSystem} {bytes : List UInt8} (h : fs.write path bytes = .ok fs') :
    ∃ place, Wrote fs fs' path place bytes ∧
      (fs.hasPath path = false → fs.root.look? place = none) := by
  obtain ⟨place, hplace, rfl⟩ : ∃ place, fs.placeFor path = .ok place ∧
      fs.withFile place bytes = fs' := by
    unfold write at h
    cases hplace : fs.placeFor path with
    | error f => simp [hplace, Except.map] at h
    | ok place => exact ⟨place, rfl, by simpa [hplace, Except.map, withFile] using h⟩
  obtain ⟨here, name, rfl, hslot⟩ := placeFor_eq_ok hplace
  exact ⟨_, hslot.wrote bytes, hslot.look?_eq_none⟩

end FileSystem

end InfraEvidence
