/-
  InfraEvidence — what a walk finds.

  * `Node.mem_filesBelow`, `Node.nodup_filesBelow`: the walk of a tree passes
    over what lies below skipped names and too deep, and comes to every other
    file once;
  * `Path.Before`: the order of paths by their components;
  * `Walk.collect_exact`: the files below a folder are exactly the wanted ones,
    in that order;
  * `Walk.backslash_and_bad_glob`: a backslash in a name counts as a slash, and
    a malformed glob is a fault.
-/
import InfraEvidence.Proofs.Files.Matcher
import Mathlib.Data.List.Nodup

namespace InfraEvidence

open InfraEvidence.Path

/-! ## The files of a tree -/

theorem isSkipped_eq_false_iff {name : String} :
    isSkipped name = false ↔ name.toList.head? ≠ some '.' ∧ name ∉ skippedNames := by
  simp [isSkipped]

theorem filesAmong_eq (depth : Nat) (children : List (String × Node)) :
    filesAmong depth children = children.flatMap fun c =>
      if isSkipped c.1 then [] else (c.2.filesBelow depth).map (c.1 :: ·) := by
  induction children with
  | nil => rfl
  | cons c rest ih =>
    obtain ⟨name, n⟩ := c
    rw [filesAmong, ih, List.flatMap_cons]

theorem mem_filesAmong {depth : Nat} {children : List (String × Node)} {names : List String} :
    names ∈ filesAmong depth children ↔ ∃ c ∈ children, isSkipped c.1 = false ∧
      ∃ rest ∈ c.2.filesBelow depth, names = c.1 :: rest := by
  rw [filesAmong_eq, List.mem_flatMap]
  refine exists_congr fun c => and_congr_right fun _ => ?_
  cases isSkipped c.1 <;> simp [eq_comm]

namespace Node

/-- **What the walk comes to**: the files that are not too deep and lie below no
    skipped name. -/
theorem mem_filesBelow {n : Node} (hn : n.Proper) {depth : Nat} {names : List String} :
    names ∈ n.filesBelow depth ↔ names.length ≤ depth ∧
      (∀ name ∈ names, isSkipped name = false) ∧ ∃ bytes, n.at? names = some (.file bytes) := by
  induction hn generalizing depth names with
  | file bytes =>
    cases names with
    | nil => simp [filesBelow, at?]
    | cons name names => simp [filesBelow, at?, children]
  | folder cs hnodup _ _ ih =>
    cases names with
    | nil => cases depth <;> simp [filesBelow, mem_filesAmong, at?]
    | cons name names =>
      cases depth with
      | zero => simp [filesBelow]
      | succ depth =>
        have hlookup : ∀ c, (name, c) ∈ cs ↔ cs.lookup name = some c := fun c =>
          ⟨fun hc => Dict.lookup_of_mem hnodup hc, Dict.mem_of_lookup⟩
        rw [filesBelow, mem_filesAmong]
        simp only [List.forall_mem_cons, List.length_cons, Nat.add_le_add_iff_right, at?, children,
          Option.bind_eq_some_iff, ← hlookup]
        constructor
        · rintro ⟨⟨_, c⟩, hc, hskip, rest, hrest, heq⟩
          obtain ⟨rfl, rfl⟩ := List.cons.inj heq
          obtain ⟨hlength, hnames, bytes, hfile⟩ := (ih _ hc).1 hrest
          exact ⟨hlength, ⟨hskip, hnames⟩, bytes, c, hc, hfile⟩
        · rintro ⟨hlength, ⟨hskip, hnames⟩, bytes, c, hc, hfile⟩
          exact ⟨(name, c), hc, hskip, names, (ih _ hc).2 ⟨hlength, hnames, bytes, hfile⟩, rfl⟩

/-- The walk comes to every file once. -/
theorem nodup_filesBelow {n : Node} (hn : n.Proper) (depth : Nat) :
    (n.filesBelow depth).Nodup := by
  induction hn generalizing depth with
  | file bytes => exact List.nodup_singleton _
  | folder cs hnodup _ _ ih =>
    cases depth with
    | zero => exact List.nodup_nil
    | succ depth =>
      rw [filesBelow, filesAmong_eq, List.nodup_flatMap]
      refine ⟨fun c hc => ?_, (List.pairwise_map.1 hnodup).imp fun {c d} hne => ?_⟩
      · split
        · exact List.nodup_nil
        · exact (ih c hc depth).map fun _ _ h => (List.cons.inj h).2
      · -- paths below different names begin with different names
        intro names hc hd
        simp only [List.mem_ite_nil_left, List.mem_map] at hc hd
        obtain ⟨-, _, -, rfl⟩ := hc
        obtain ⟨-, _, -, heq⟩ := hd
        exact hne (List.cons.inj heq).1.symm

end Node

/-! ## The order of paths -/

namespace Path

/-- The kinds of components in their order. -/
def Component.rank : Component → Nat
  | .root => 0
  | .here => 1
  | .up => 2
  | .name _ => 3

/-- The order of components: by their kinds, and names by their characters. -/
def Component.Before : Component → Component → Prop
  | .name s, .name t => s < t
  | a, b => a.rank < b.rank

/-- The order of paths: by their first different components, a path before those
    below it. -/
def Before (p q : String) : Prop := List.Lex Component.Before (components p) (components q)

theorem Component.not_before_self (a : Component) : ¬ a.Before a := by
  cases a <;> simp [Component.Before, Component.rank]

theorem not_before_self (p : String) : ¬ Before p p := by
  unfold Before
  induction components p with
  | nil => exact fun h => nomatch h
  | cons a as ih =>
    intro h
    cases h with
    | cons h => exact ih h
    | rel h => exact a.not_before_self h

theorem ne_of_before {p q : String} (h : Before p q) : p ≠ q := by
  rintro rfl
  exact not_before_self p h

theorem before_below {p : String} {as bs : List String} (hp : p ≠ "")
    (has : ∀ n ∈ as, IsName n) (hbs : ∀ n ∈ bs, IsName n) (h : List.Lex (· < ·) as bs) :
    Before (below p as) (below p bs) := by
  have hnames : List.Lex Component.Before (as.map .name) (bs.map .name) := by
    induction h with
    | nil => exact .nil
    | cons _ ih => exact .cons (ih (List.forall_mem_cons.1 has).2 (List.forall_mem_cons.1 hbs).2)
    | rel h => exact .rel h
  rw [Before, components_below hp has, components_below hp hbs]
  induction components p with
  | nil => exact hnames
  | cons c cs ih => exact .cons ih

end Path

namespace Walk

theorem comesBefore_cons_iff {a b : String} {as bs : List String} :
    comesBefore (a :: as) (b :: bs) = true ↔ a < b ∨ a = b ∧ comesBefore as bs = true := by
  simp [comesBefore]

theorem comesBefore_trans {as bs cs : List String} (hab : comesBefore as bs = true)
    (hbc : comesBefore bs cs = true) : comesBefore as cs = true := by
  induction as generalizing bs cs with
  | nil => rfl
  | cons a as ih =>
    cases bs with
    | nil => contradiction
    | cons b bs =>
      cases cs with
      | nil => contradiction
      | cons c cs =>
        rw [comesBefore_cons_iff] at hab hbc ⊢
        rcases hab with hab | ⟨rfl, hab⟩
        · rcases hbc with hbc | ⟨rfl, -⟩
          · exact Or.inl (String.lt_trans hab hbc)
          · exact Or.inl hab
        · rcases hbc with hbc | ⟨rfl, hbc⟩
          · exact Or.inl hbc
          · exact Or.inr ⟨rfl, ih hab hbc⟩

theorem comesBefore_total (as bs : List String) :
    (comesBefore as bs || comesBefore bs as) = true := by
  induction as generalizing bs with
  | nil => rfl
  | cons a as ih =>
    cases bs with
    | nil => rfl
    | cons b bs =>
      have hrest := ih bs
      rw [Bool.or_eq_true] at hrest ⊢
      rw [comesBefore_cons_iff, comesBefore_cons_iff]
      by_cases hab : a < b
      · exact Or.inl (Or.inl hab)
      · by_cases hba : b < a
        · exact Or.inr (Or.inl hba)
        · obtain rfl := String.le_antisymm (String.not_lt.1 hba) (String.not_lt.1 hab)
          exact hrest.imp (fun h => Or.inr ⟨rfl, h⟩) fun h => Or.inr ⟨rfl, h⟩

theorem comesBefore_antisymm {as bs : List String} (hab : comesBefore as bs = true)
    (hba : comesBefore bs as = true) : as = bs := by
  induction as generalizing bs with
  | nil =>
    cases bs with
    | nil => rfl
    | cons b bs => contradiction
  | cons a as ih =>
    cases bs with
    | nil => contradiction
    | cons b bs =>
      rw [comesBefore_cons_iff] at hab hba
      rcases hab with hab | ⟨rfl, hab⟩
      · rcases hba with hba | ⟨rfl, -⟩
        · exact absurd (String.lt_trans hab hba) (String.lt_irrefl a)
        · exact absurd hab (String.lt_irrefl b)
      · rcases hba with hba | ⟨-, hba⟩
        · exact absurd hba (String.lt_irrefl a)
        · rw [ih hab hba]

theorem lex_of_comesBefore {as bs : List String} (h : comesBefore as bs = true) (hne : as ≠ bs) :
    List.Lex (· < ·) as bs := by
  induction as generalizing bs with
  | nil =>
    cases bs with
    | nil => contradiction
    | cons b bs => exact .nil
  | cons a as ih =>
    cases bs with
    | nil => contradiction
    | cons b bs =>
      rw [comesBefore_cons_iff] at h
      rcases h with h | ⟨rfl, h⟩
      · exact .rel h
      · exact .cons (ih h fun e => hne (by rw [e]))

variable {m : FileMatcher} {depth : Nat} {n : Node}

theorem mem_selected {names : List String} : names ∈ selected m depth n ↔
    names ∈ n.filesBelow depth ∧ m.selects (ofNames names) = true := by
  rw [selected, List.mem_mergeSort, List.mem_filter]

theorem selected_sorted : (selected m depth n).Pairwise (comesBefore · · = true) :=
  @List.pairwise_mergeSort _ comesBefore (fun _ _ _ => comesBefore_trans) comesBefore_total _

/-- What is selected is the one list in order of what the walk comes to. -/
theorem selected_eq {l : List (List String)}
    (hperm : ((n.filesBelow depth).filter fun names => m.selects (ofNames names)).Perm l)
    (hsorted : l.Pairwise (comesBefore · · = true)) : selected m depth n = l :=
  ((List.mergeSort_perm _ _).trans hperm).eq_of_pairwise
    (fun _ _ _ _ => comesBefore_antisymm) selected_sorted hsorted

theorem nodup_selected (hn : n.Proper) : (selected m depth n).Nodup :=
  (List.mergeSort_perm _ _).nodup_iff.2 ((n.nodup_filesBelow hn depth).filter _)

/-- The files selected are in order, without repetition. -/
theorem selected_pairwise (hn : n.Proper) :
    (selected m depth n).Pairwise (List.Lex (· < ·)) :=
  (selected_sorted.and (nodup_selected hn)).imp fun h => lex_of_comesBefore h.1 h.2

/-! ## What is collected -/

/-- The relative paths of the files that are found from a root. -/
def foundFrom (m : FileMatcher) (depth : Nat) (root : String) : Node → List (List String)
  | .file _ => if m.selects root then [[]] else []
  | .folder children => selected m depth (.folder children)

variable {fs : FileSystem} {s : ScanSettings} {further : List String} {root : String}

theorem collect_eq (hroot : fs.node root = .ok n) (hm : FileMatcher.ofSettings s further = .ok m) :
    collect fs s further root = .ok ((foundFrom m s.maxDepth root n).map (below root)) := by
  rw [collect, hroot]
  dsimp only
  rw [hm]
  cases n with
  | file bytes =>
    rw [foundFrom]
    by_cases hselects : m.selects root = true <;> simp [hselects, below, bind, Except.bind, pure,
      Except.pure]
  | folder children => rfl

theorem collect_eq_error {fault : Fault} (hroot : fs.node root = .ok n)
    (hm : FileMatcher.ofSettings s further = .error fault) :
    collect fs s further root = .error fault := by
  rw [collect, hroot]
  dsimp only
  rw [hm]
  rfl

/-- The file is one to be found from the folder `n`. -/
structure Sought (s : ScanSettings) (further : List String) (n : Node) (names : List String) :
    Prop where
  /-- There is a file -/
  isFile : ∃ bytes, n.at? names = some (.file bytes)
  /-- It is not too deep -/
  depth : names.length ≤ s.maxDepth
  /-- No name on the way is hidden or skipped -/
  visible : ∀ name ∈ names, name.toList.head? ≠ some '.' ∧ name ∉ skippedNames
  /-- The globs select it -/
  wanted : FileMatcher.Wanted s further names

theorem mem_selected_iff (hn : n.Proper) {names : List String}
    (hm : ∀ names, (∀ n ∈ names, IsName n) →
      (m.selects (ofNames names) = true ↔ FileMatcher.Wanted s further names)) :
    names ∈ selected m s.maxDepth n ↔ Sought s further n names := by
  rw [mem_selected, Node.mem_filesBelow hn]
  simp only [isSkipped_eq_false_iff]
  constructor
  · rintro ⟨⟨hdepth, hvisible, bytes, hfile⟩, hselects⟩
    exact ⟨⟨bytes, hfile⟩, hdepth, hvisible, (hm names (hn.at? hfile).2).1 hselects⟩
  · rintro ⟨⟨bytes, hfile⟩, hdepth, hvisible, hwanted⟩
    exact ⟨⟨hdepth, hvisible, bytes, hfile⟩, (hm names (hn.at? hfile).2).2 hwanted⟩

/-- **What is collected below a folder**: exactly the files sought, without
    repetition, in the order of their paths, which lead to files; or the fault of
    the first further glob that is malformed. -/
theorem collect_exact {children : List (String × Node)} (hproper : fs.root.Proper)
    (hroot : fs.node root = .ok (.folder children))
    (hglobs : ∀ g ∈ s.includes ++ s.excludes, Glob.WellFormed g) :
    ((∀ g ∈ further, Glob.WellFormed g) →
      ∃ files, collect fs s further root = .ok files ∧ files.Nodup ∧ files.Pairwise Before ∧
        (∀ p, p ∈ files ↔
          ∃ names, p = below root names ∧ Sought s further (.folder children) names) ∧
        ∀ p ∈ files, ∃ bytes, fs.read p = .ok bytes) ∧
    ∀ before g after fault, further = before ++ g :: after →
      (∀ b ∈ before, Glob.WellFormed b) → Glob.read g = .error fault →
      collect fs s further root = .error fault := by
  obtain ⟨place, hplace, hat⟩ := FileSystem.node_eq_ok.1 hroot
  have hfolder : (Node.folder children).Proper := (hproper.at? hat).1
  have hne := FileSystem.ne_empty_of_resolve hplace
  constructor
  · intro hfurther
    obtain ⟨m, hm, hselects⟩ := FileMatcher.ofSettings_eq_ok hglobs hfurther
    have hmem : ∀ names, names ∈ selected m s.maxDepth (.folder children) ↔
        Sought s further (.folder children) names := fun _ => mem_selected_iff hfolder hselects
    have hnames : ∀ names ∈ selected m s.maxDepth (.folder children), ∀ n ∈ names, IsName n := by
      intro names h
      obtain ⟨bytes, hfile⟩ := ((hmem names).1 h).isFile
      exact (hfolder.at? hfile).2
    have hbefore : ((selected m s.maxDepth (.folder children)).map (below root)).Pairwise
        Before := by
      rw [List.pairwise_map]
      exact (selected_pairwise hfolder).imp_of_mem fun has hbs h =>
        before_below hne (hnames _ has) (hnames _ hbs) h
    have hfiles : ∀ p, p ∈ (selected m s.maxDepth (.folder children)).map (below root) ↔
        ∃ names, p = below root names ∧ Sought s further (.folder children) names := by
      intro p
      rw [List.mem_map]
      exact exists_congr fun names => by rw [hmem, eq_comm, and_comm]
    refine ⟨_, collect_eq hroot hm, hbefore.imp ne_of_before, hbefore, hfiles, fun p hp => ?_⟩
    obtain ⟨names, rfl, hsought⟩ := (hfiles p).1 hp
    obtain ⟨bytes, hfile⟩ := hsought.isFile
    exact ⟨bytes, FileSystem.read_below hroot hfolder hfile⟩
  · rintro before g after fault rfl hbefore hg
    exact collect_eq_error hroot (FileMatcher.ofSettings_eq_error hglobs hbefore hg)

/-- What is in a folder for settings: files, a folder with another one, and
    names that are passed over. -/
def stackFiles : List (String × Node) :=
  [("main.tf", .file []), ("a.tf", .file []), ("a", .folder [("x.tf", .file [])]),
    ("vendor", .folder [("v.tf", .file [])]), (".h.tf", .file []), ("notes.md", .file [])]

/-- Those files in a folder with a hidden name. -/
def hiddenStack : FileSystem where
  root := .folder [(".stack", .folder stackFiles)]
  working := []

theorem proper_hiddenStack : hiddenStack.root.Proper := by
  have hfiles : (Node.folder stackFiles).Proper := by
    refine .cons (by decide) (by decide) (.file _) (.cons (by decide) (by decide) (.file _) ?_)
    refine .cons (by decide) (by decide) (.cons (by decide) (by decide) (.file _) .nil) ?_
    refine .cons (by decide) (by decide) (.cons (by decide) (by decide) (.file _) .nil) ?_
    exact .cons (by decide) (by decide) (.file _) (.cons (by decide) (by decide) (.file _) .nil)
  exact .cons (by decide) (by decide) hfiles .nil

theorem collect_hiddenStack : collect hiddenStack {} [] ".stack" =
    .ok [".stack/a/x.tf", ".stack/a.tf", ".stack/main.tf"] := by
  have hroot : hiddenStack.node ".stack" = .ok (.folder stackFiles) := by rfl
  obtain ⟨m, hm, hfound⟩ : ∃ m, FileMatcher.ofSettings {} [] = .ok m ∧
      ((Node.folder stackFiles).filesBelow 100).filter (fun names => m.selects (ofNames names)) =
        [["main.tf"], ["a.tf"], ["a", "x.tf"]] := exists_eq_ok (by decide +kernel)
  have hselected : selected m 100 (.folder stackFiles) = [["a", "x.tf"], ["a.tf"], ["main.tf"]] :=
    selected_eq ((List.Perm.of_eq hfound).trans (by decide +kernel)) (by decide +kernel)
  rw [collect_eq hroot hm, foundFrom]
  exact congrArg (fun l => Except.ok (l.map (below ".stack"))) hselected

/-- The hidden name of the root does not matter, those below it do; `a/x.tf` is
    before `a.tf`, although `.` is before `/`. -/
theorem collect_exact_hidden_root :
    hiddenStack.root.Proper ∧ hiddenStack.node ".stack" = .ok (.folder stackFiles) ∧
      (∀ g ∈ ({} : ScanSettings).includes ++ ({} : ScanSettings).excludes, Glob.WellFormed g) ∧
      ∃ files, collect hiddenStack {} [] ".stack" = .ok files ∧ files.Nodup ∧
        files.Pairwise Before ∧ files = [".stack/a/x.tf", ".stack/a.tf", ".stack/main.tf"] ∧
        (∀ p, p ∈ files ↔
          ∃ names, p = below ".stack" names ∧ Sought {} [] (.folder stackFiles) names) ∧
        ∀ p ∈ files, ∃ bytes, hiddenStack.read p = .ok bytes := by
  have hroot : hiddenStack.node ".stack" = .ok (.folder stackFiles) := by rfl
  have hglobs : ∀ g ∈ ({} : ScanSettings).includes ++ ({} : ScanSettings).excludes,
      Glob.WellFormed g := by decide +kernel
  refine ⟨proper_hiddenStack, hroot, hglobs, ?_⟩
  obtain ⟨files, hfiles, hnodup, hbefore, hmem, hread⟩ :=
    (collect_exact proper_hiddenStack hroot hglobs).1 (List.forall_mem_nil _)
  have hlist := Except.ok.inj (hfiles.symm.trans collect_hiddenStack)
  exact ⟨files, hfiles, hnodup, hbefore, hlist, hmem, hread⟩

/-- A file whose name has a backslash. -/
def backslashFile : FileSystem where
  root := .folder [("modules\\vpc.tf", .file [])]
  working := []

/-- **Where a further glob is not what it looks like**: `modules/**` does not
    match the name `modules\vpc.tf`, which has no slash, and yet finds the file,
    as a backslash counts as a slash; and one malformed glob is a fault. -/
theorem backslash_and_bad_glob :
    backslashFile.root.Proper ∧ backslashFile.node "." = .ok backslashFile.root ∧
      (∀ g ∈ "modules/**" :: ({} : ScanSettings).includes ++ ({} : ScanSettings).excludes,
        Glob.WellFormed g) ∧
      (∀ g, Glob.read "modules/**" = .ok g → g.admits (ofNames ["modules\\vpc.tf"]) = false) ∧
      collect backslashFile {} ["modules/**"] "." = .ok ["./modules\\vpc.tf"] ∧
      ∃ fault, collect backslashFile {} ["["] "." = .error fault := by
  have hroot : backslashFile.node "." = .ok backslashFile.root := by rfl
  refine ⟨.cons (by decide) (by decide) (.file _) .nil, hroot, by decide +kernel, ?_, ?_, ?_⟩
  · intro g hg
    obtain ⟨_, hread, hadmits⟩ : ∃ g, Glob.read "modules/**" = .ok g ∧
        g.admits (ofNames ["modules\\vpc.tf"]) = false := exists_eq_ok (by decide +kernel)
    rwa [Except.ok.inj (hg.symm.trans hread)]
  · obtain ⟨m, hm, hfound⟩ : ∃ m, FileMatcher.ofSettings {} ["modules/**"] = .ok m ∧
        (backslashFile.root.filesBelow 100).filter (fun names => m.selects (ofNames names)) =
          [["modules\\vpc.tf"]] := exists_eq_ok (by decide +kernel)
    have hselected : selected m 100 backslashFile.root = [["modules\\vpc.tf"]] :=
      selected_eq (.of_eq hfound) (List.pairwise_singleton _ _)
    rw [collect_eq hroot hm]
    exact congrArg (fun l => Except.ok (l.map (below "."))) hselected
  · have hbad : (FileMatcher.ofSettings {} ["["]).isOk = false := by decide +kernel
    cases hm : FileMatcher.ofSettings {} ["["] with
    | error fault => exact ⟨fault, collect_eq_error hroot hm⟩
    | ok m =>
      rw [hm] at hbad
      contradiction

end Walk

end InfraEvidence
