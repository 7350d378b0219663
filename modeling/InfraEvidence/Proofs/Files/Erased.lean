/-
  InfraEvidence — trees without one of their files.

  A tree is looked at place by place (`Node.look?`): nothing, a folder, or a
  file with its bytes.  Taking a file away changes one entry, and where paths
  lead and what is read there depend on the entries only.

  * `Node.erase`: the tree without what some names lead to;
  * `Node.look?_erase`: it lacks this one entry; `Node.erase_set`: whatever
    bytes the file had;
  * `FileSystem.resolve_without`, `FileSystem.read_without`: all paths but those
    of the file lead to the same places, and are read as before.
-/
import InfraEvidence.Proofs.Files.Place

namespace InfraEvidence

open InfraEvidence.Path

/-! ## Entries -/

/-- A node without what lies below it. -/
inductive Entry where
  | file (bytes : List UInt8)
  | folder

namespace Node

def entry : Node → Entry
  | file bytes => .file bytes
  | folder _ => .folder

/-- What stands at the place that some names lead to. -/
def look? (n : Node) (names : List String) : Option Entry := (n.at? names).map entry

/-- The tree without what some names lead to. -/
def erase : Node → List String → Node
  | n, [] => n
  | n, [name] => .folder (n.children.filter fun c => c.1 ≠ name)
  | n, name :: names =>
    match n.children.lookup name with
    | some c => .folder (setChild name (c.erase names) n.children)
    | none => n

theorem look?_eq_file {n : Node} {names : List String} {bytes : List UInt8} :
    n.look? names = some (.file bytes) ↔ n.at? names = some (.file bytes) := by
  rw [look?]
  cases n.at? names with
  | none => simp
  | some m => cases m <;> simp [entry]

theorem look?_append {n m : Node} {place : List String} (h : n.at? place = some m)
    (names : List String) : n.look? (place ++ names) = m.look? names := by
  rw [look?, look?, at?_append, h, Option.bind_some]

theorem lookup_cons_ite (c : String × Node) (name : String) (cs : List (String × Node)) :
    (c :: cs).lookup name = if name = c.1 then some c.2 else cs.lookup name := by
  rw [List.lookup_cons]
  by_cases h : name = c.1
  · simp [h]
  · simp [h, beq_eq_false_iff_ne.2 h]

theorem lookup_setChild (name other : String) (n : Node) (cs : List (String × Node)) :
    (setChild name n cs).lookup other = if other = name then some n else cs.lookup other := by
  induction cs with
  | nil => simp [setChild, lookup_cons_ite]
  | cons c cs ih =>
    by_cases hkey : c.1 = name
    · by_cases h : other = name <;> simp [setChild, hkey, lookup_cons_ite, h]
    · rw [setChild, if_neg hkey, lookup_cons_ite, lookup_cons_ite, ih]
      by_cases h : other = c.1
      · simp [h, hkey]
      · simp [h]

theorem lookup_filter_ne (name other : String) (cs : List (String × Node)) :
    (cs.filter fun c => c.1 ≠ name).lookup other =
      if other = name then none else cs.lookup other := by
  induction cs with
  | nil => simp
  | cons c cs ih =>
    by_cases hkey : c.1 = name
    · rw [List.filter_cons_of_neg (by simp [hkey]), ih, lookup_cons_ite, hkey]
      by_cases h : other = name <;> simp [h]
    · rw [List.filter_cons_of_pos (by simpa using hkey), lookup_cons_ite, lookup_cons_ite, ih]
      by_cases h : other = c.1
      · simp [h, hkey]
      · simp [h]

theorem at?_cons (n : Node) (name : String) (names : List String) :
    n.at? (name :: names) = (n.children.lookup name).bind (·.at? names) := rfl

theorem at?_file_cons (bytes : List UInt8) (name : String) (names : List String) :
    (file bytes).at? (name :: names) = none := rfl

/-- **A tree without a file** lacks this entry, and has all others. -/
theorem look?_erase {n : Node} {place : List String} {bytes : List UInt8} (hne : place ≠ [])
    (h : n.at? place = some (.file bytes)) (names : List String) :
    (n.erase place).look? names = if names = place then none else n.look? names := by
  induction place generalizing n names with
  | nil => contradiction
  | cons name place ih =>
    obtain ⟨cs, c, rfl, hchild, hc⟩ := at?_cons_eq_some h
    cases names with
    | nil => cases place <;> simp [erase, children, hchild, look?, at?, entry]
    | cons other names =>
      cases place with
      | nil =>
        -- the file is a child of the folder, and nothing lies below it
        obtain rfl := Option.some.inj hc
        rw [erase, look?, look?, at?_cons, at?_cons, children, children, lookup_filter_ne]
        by_cases hother : other = name
        · subst hother
          cases names <;> simp [hchild, at?_file_cons]
        · simp [hother]
      | cons next place =>
        have herase : erase (.folder cs) (name :: next :: place) =
            .folder (setChild name (c.erase (next :: place)) cs) := by
          simp [erase, children, hchild]
        rw [herase, look?, look?, at?_cons, at?_cons, children, children, lookup_setChild]
        by_cases hother : other = name
        · subst hother
          simpa [hchild, look?] using ih (List.cons_ne_nil _ _) hc names
        · simp [hother]

theorem at?_set (n new : Node) (place : List String) : (n.set place new).at? place = some new := by
  induction place generalizing n with
  | nil => rfl
  | cons name place ih => simp [set, at?_cons, children, lookup_setChild, ih]

theorem setChild_setChild (name : String) (a b : Node) (cs : List (String × Node)) :
    setChild name b (setChild name a cs) = setChild name b cs := by
  induction cs with
  | nil => simp [setChild]
  | cons c cs ih => by_cases h : c.1 = name <;> simp [setChild, h, ih]

theorem filter_setChild (name : String) (a : Node) (cs : List (String × Node)) :
    (setChild name a cs).filter (fun c => c.1 ≠ name) = cs.filter fun c => c.1 ≠ name := by
  induction cs with
  | nil => simp [setChild]
  | cons c cs ih => by_cases h : c.1 = name <;> simp_all [setChild]

/-- What stood at a place does not matter once it is taken away. -/
theorem erase_set {n m : Node} {place : List String} (h : n.at? place = some m) (hne : place ≠ [])
    (new : Node) : (n.set place new).erase place = n.erase place := by
  induction place generalizing n with
  | nil => contradiction
  | cons name place ih =>
    obtain ⟨cs, c, rfl, hchild, hc⟩ := at?_cons_eq_some h
    cases place with
    | nil => rw [set, erase, erase, children, children, filter_setChild]
    | cons next place =>
      have hset : set (.folder cs) (name :: next :: place) new =
          .folder (setChild name (c.set (next :: place) new) cs) := by
        simp [set, children, hchild]
      simp [hset, erase, children, lookup_setChild, setChild_setChild, hchild,
        ih hc (List.cons_ne_nil _ _)]

theorem map_fst_setChild {name : String} {c : Node} {cs : List (String × Node)}
    (h : cs.lookup name = some c) (n : Node) :
    (setChild name n cs).map Prod.fst = cs.map Prod.fst := by
  induction cs with
  | nil => contradiction
  | cons d cs ih =>
    by_cases hd : d.1 = name
    · simp [setChild, hd]
    · have hne : (name == d.1) = false := by simpa using Ne.symm hd
      rw [List.lookup_cons, hne] at h
      simp [setChild, hd, ih h]

theorem mem_setChild {name : String} {n : Node} {cs : List (String × Node)} {c : String × Node}
    (h : c ∈ setChild name n cs) : c = (name, n) ∨ c ∈ cs := by
  induction cs with
  | nil => exact Or.inl (List.mem_singleton.1 h)
  | cons d cs ih =>
    rw [setChild] at h
    split at h
    · rcases List.mem_cons.1 h with h | h
      · exact Or.inl h
      · exact Or.inr (List.mem_cons_of_mem d h)
    · rcases List.mem_cons.1 h with rfl | h
      · exact Or.inr List.mem_cons_self
      · exact (ih h).imp_right (List.mem_cons_of_mem d)

theorem Proper.setChild {name : String} {c n : Node} {cs : List (String × Node)}
    (h : (Node.folder cs).Proper) (hc : cs.lookup name = some c) (hn : n.Proper) :
    (Node.folder (setChild name n cs)).Proper := by
  cases h with
  | folder _ hnodup hnames hnodes =>
    refine .folder _ (map_fst_setChild hc n ▸ hnodup) (fun d hd => ?_) fun d hd => ?_
    · rcases mem_setChild hd with rfl | hd
      · exact hnames (name, c) (Dict.mem_of_lookup hc)
      · exact hnames d hd
    · rcases mem_setChild hd with rfl | hd
      · exact hn
      · exact hnodes d hd

theorem Proper.child {name : String} {c : Node} {cs : List (String × Node)}
    (h : (Node.folder cs).Proper) (hc : cs.lookup name = some c) : c.Proper := by
  cases h with
  | folder _ _ _ hnodes => exact hnodes _ (Dict.mem_of_lookup hc)

theorem Proper.set {n m new : Node} {place : List String} (h : n.Proper)
    (hm : n.at? place = some m) (hnew : new.Proper) : (n.set place new).Proper := by
  induction place generalizing n with
  | nil => exact hnew
  | cons name place ih =>
    obtain ⟨cs, c, rfl, hchild, hc⟩ := at?_cons_eq_some hm
    have hset : Node.set (.folder cs) (name :: place) new =
        .folder (Node.setChild name (c.set place new) cs) := by
      simp [Node.set, children, hchild]
    rw [hset]
    exact h.setChild hchild (ih (h.child hchild) hc)

theorem Proper.erase {n m : Node} {place : List String} (h : n.Proper) (hm : n.at? place = some m) :
    (n.erase place).Proper := by
  induction place generalizing n with
  | nil => exact h
  | cons name place ih =>
    obtain ⟨cs, c, rfl, hchild, hc⟩ := at?_cons_eq_some hm
    cases place with
    | nil =>
      cases h with
      | folder _ hnodup hnames hnodes =>
        refine .folder _ (hnodup.sublist (List.filter_sublist.map _)) (fun d hd => ?_)
          fun d hd => ?_
        · exact hnames d (List.mem_filter.1 hd).1
        · exact hnodes d (List.mem_filter.1 hd).1
    | cons next place =>
      have herase : Node.erase (.folder cs) (name :: next :: place) =
          .folder (Node.setChild name (c.erase (next :: place)) cs) := by
        simp [Node.erase, children, hchild]
      rw [herase]
      exact h.setChild hchild (ih (h.child hchild) hc)

end Node

/-! ## Paths -/

namespace FileSystem

/-- The tree with other bytes at the place of a file. -/
def withFile (fs : FileSystem) (place : List String) (bytes : List UInt8) : FileSystem :=
  { fs with root := fs.root.set place (.file bytes) }

/-- The tree without the file at a place. -/
def without (fs : FileSystem) (place : List String) : FileSystem :=
  { fs with root := fs.root.erase place }

theorem follow_cons (root : Node) (place : List String) (part : String) (parts : List String) :
    follow root place (part :: parts) =
      match root.look? place with
      | some .folder =>
        if part = "" ∨ part = "." then follow root place parts
        else if part = ".." then follow root place.dropLast parts
        else if (root.look? (place ++ [part])).isSome then follow root (place ++ [part]) parts
        else .error .notFound
      | some (.file _) => .error .notFolder
      | none => .error .notFound := by
  rw [follow, Node.look?, Node.look?, Node.at?_append]
  cases root.at? place with
  | none => rfl
  | some n =>
    cases n with
    | file bytes => rfl
    | folder children =>
      have hchild : (((Node.folder children).at? [part]).map Node.entry).isSome =
          (children.lookup part).isSome := by
        cases h : children.lookup part <;> simp [Node.at?, Node.children, h]
      simp only [Node.entry, Option.bind_some, Option.map_some, hchild]

theorem look?_below_file {root : Node} {gone : List String} {bytes : List UInt8}
    (hgone : root.at? gone = some (.file bytes)) (name : String) :
    root.look? (gone ++ [name]) = none := by
  rw [Node.look?_append hgone]
  rfl

variable {fs : FileSystem} {gone : List String} {bytes : List UInt8}

/-- Following parts in the tree without a file: the way may neither end at the
    file nor lead through it. -/
theorem follow_erase {root : Node} (hne : gone ≠ [])
    (hgone : root.at? gone = some (.file bytes)) {place parts q : List String}
    (h : place ≠ gone ∨ parts ≠ []) :
    follow (root.erase gone) place parts = .ok q ↔ follow root place parts = .ok q ∧ q ≠ gone := by
  induction parts generalizing place with
  | nil =>
    have hplace : place ≠ gone := h.resolve_right (by simp)
    constructor
    · intro hq
      exact ⟨hq, Except.ok.inj hq ▸ hplace⟩
    · exact And.left
  | cons part parts ih =>
    rw [follow_cons, follow_cons, Node.look?_erase hne hgone, Node.look?_erase hne hgone]
    by_cases hplace : place = gone
    · simp [hplace, Node.look?_eq_file.2 hgone]
    · rw [if_neg hplace]
      cases hentry : root.look? place with
      | none => simp
      | some e =>
        cases e with
        | file bs => simp
        | folder =>
          simp only
          by_cases hhere : part = "" ∨ part = "."
          · rw [if_pos hhere, if_pos hhere]
            exact ih (Or.inl hplace)
          rw [if_neg hhere, if_neg hhere]
          by_cases hup : part = ".."
          · rw [if_pos hup, if_pos hup]
            refine ih (Or.inl fun hlast => ?_)
            -- the folder would lie below the file
            rcases List.eq_nil_or_concat place with rfl | ⟨init, name, rfl⟩
            · exact hne hlast.symm
            · rw [List.concat_eq_append] at hlast hentry
              rw [List.dropLast_concat] at hlast
              simp [hlast, look?_below_file hgone] at hentry
          rw [if_neg hup, if_neg hup]
          by_cases hnext : place ++ [part] = gone
          · rw [if_pos hnext, hnext, Node.look?_eq_file.2 hgone]
            cases parts with
            | nil =>
              simp only [Option.isSome_none, Bool.false_eq_true, if_false, Option.isSome_some,
                if_true, follow, Except.ok.injEq, reduceCtorEq, false_iff, not_and, not_not]
              exact fun hq => hq.symm
            | cons next parts => simp [follow_cons, Node.look?_eq_file.2 hgone]
          · rw [if_neg hnext]
            split
            · exact ih (Or.inl hnext)
            · simp

theorem place_ne_nil {p : String} (hgone : fs.root.at? gone = some (.file bytes))
    (hp : fs.resolve p = .ok gone) : gone ≠ [] := by
  rintro rfl
  have hroot : fs.root = .file bytes := Option.some.inj hgone
  obtain ⟨first, rest, hparts⟩ := List.exists_cons_of_ne_nil (parts_ne_nil p)
  rw [resolve_of_ne (ne_empty_of_resolve hp), hparts, follow_cons, hroot] at hp
  -- a tree that is a file has no folder to start from
  cases hstart : fs.startOf p <;>
    simp [hstart, Node.look?, Node.at?, Node.children, Node.entry] at hp

theorem resolve_without (hne : gone ≠ []) (hgone : fs.root.at? gone = some (.file bytes))
    {p : String} {place : List String} :
    (fs.without gone).resolve p = .ok place ↔ fs.resolve p = .ok place ∧ place ≠ gone := by
  by_cases hp : p = ""
  · subst hp
    simp [resolve]
  · rw [resolve_of_ne hp, resolve_of_ne hp]
    exact follow_erase hne hgone (Or.inr (parts_ne_nil p))

/-- A path that leads somewhere in the tree without a file does so in the whole
    tree, and the entries below are the same but for the file. -/
theorem node_without (hne : gone ≠ []) (hgone : fs.root.at? gone = some (.file bytes)) {p : String}
    {n' : Node} (hp : (fs.without gone).node p = .ok n') :
    ∃ place n, fs.resolve p = .ok place ∧ place ≠ gone ∧ fs.root.at? place = some n ∧
      (fs.root.erase gone).at? place = some n' ∧
      ∀ names, n'.look? names = if place ++ names = gone then none else n.look? names := by
  obtain ⟨place, hresolve', hat'⟩ := node_eq_ok.1 hp
  obtain ⟨hresolve, hplace⟩ := (resolve_without hne hgone).1 hresolve'
  have hentry := Node.look?_erase hne hgone
  cases hat : fs.root.at? place with
  | none =>
    have hsame := Node.look?_append (n := (fs.without gone).root) hat' []
    rw [List.append_nil, without, hentry, if_neg hplace, Node.look?, hat] at hsame
    contradiction
  | some n =>
    refine ⟨place, n, hresolve, hplace, hat, hat', fun names => ?_⟩
    rw [← Node.look?_append hat', ← Node.look?_append hat]
    exact hentry _

theorem read_eq_ok {p : String} : fs.read p = .ok bytes ↔
    ∃ place, fs.resolve p = .ok place ∧ fs.root.at? place = some (.file bytes) := by
  rw [read, bind_eq_ok]
  constructor
  · rintro ⟨n, hn, hread⟩
    cases n with
    | file bs =>
      obtain rfl := Except.ok.inj hread
      exact node_eq_ok.1 hn
    | folder children => contradiction
  · intro h
    exact ⟨_, node_eq_ok.2 h, rfl⟩

/-- **What is read** from the tree without a file: the other files. -/
theorem read_without (hne : gone ≠ []) (hgone : fs.root.at? gone = some (.file bytes)) {p : String}
    {bs : List UInt8} :
    (fs.without gone).read p = .ok bs ↔ fs.read p = .ok bs ∧ fs.resolve p ≠ .ok gone := by
  simp only [read_eq_ok, resolve_without hne hgone]
  constructor
  · rintro ⟨place, ⟨hp, hplace⟩, hat⟩
    rw [without, ← Node.look?_eq_file, Node.look?_erase hne hgone, if_neg hplace] at hat
    exact ⟨⟨place, hp, Node.look?_eq_file.1 hat⟩, by simpa [hp] using hplace⟩
  · rintro ⟨⟨place, hp, hat⟩, hother⟩
    have hplace : place ≠ gone := by simpa [hp] using hother
    refine ⟨place, ⟨hp, hplace⟩, ?_⟩
    rw [without, ← Node.look?_eq_file, Node.look?_erase hne hgone, if_neg hplace]
    exact Node.look?_eq_file.2 hat

end FileSystem

end InfraEvidence
