/-
  InfraEvidence — surveys that report no block twice.

  * `Survey.files_scanPaths`: a survey reads files that are collected, in
    their order;
  * `Survey.ReportedOnce`: no two blocks begin on one line of one file;
  * `Survey.reportedOnce_found`, `Survey.ReportedOnce.applyMode`: the blocks of
    different files, and what a mode keeps of them (`Survey.extent_applyMode`);
  * `Survey.once_iff`: when each file is collected once, whatever the roots are;
  * `Survey.dot_and_subfolder`: `.` and a folder below it find its files twice.
-/
import InfraEvidence.Proofs.Files.Overlap
import InfraEvidence.Proofs.Scan.Layout
import InfraEvidence.Proofs.Selection.Keep

namespace InfraEvidence.Survey

open InfraEvidence.Path

variable {fs : FileSystem} {sc : BlockScanner}

/-! ## The files that are read -/

theorem files_foldlM {goOn : Bool} {files : List String} {acc out : Outcome}
    (h : files.foldlM (scanFile fs sc goOn) acc = .ok out) :
    ∃ read, read.Sublist files ∧ out.files = acc.files ++ read := by
  induction files generalizing acc with
  | nil => exact ⟨[], .slnil, by rw [← Except.ok.inj h, List.append_nil]⟩
  | cons path files ih =>
    rw [List.foldlM_cons] at h
    obtain ⟨next, hnext, hrest⟩ := bind_eq_ok.1 h
    obtain ⟨read, hread, hfiles⟩ := ih hrest
    rcases scanFile_eq_ok hnext with ⟨text, -, rfl⟩ | ⟨fault, -, -, -, rfl⟩
    · exact ⟨path :: read, hread.cons_cons path, by simp [hfiles, Outcome.append]⟩
    · exact ⟨read, hread.cons path, by simp [hfiles, Outcome.append]⟩

/-- The files that a survey reads are some of those that are collected. -/
theorem files_scanPaths {s : Settings} {r : Request} {roots : List String} {out : Outcome}
    (h : scanPaths fs s r roots = .ok out) :
    ∃ files, Walk.collectAll fs s.scan r.files roots = .ok files ∧ out.files.Sublist files := by
  unfold scanPaths at h
  obtain ⟨files, hfiles, h⟩ := bind_eq_ok.1 h
  obtain ⟨types, -, h⟩ := bind_eq_ok.1 h
  obtain ⟨all, hall, h⟩ := bind_eq_ok.1 h
  obtain rfl := Except.ok.inj h
  obtain ⟨read, hread, heq⟩ := files_foldlM hall
  have hsame : all.files = read := by simpa [Outcome.empty] using heq
  exact ⟨files, hfiles, hsame ▸ hread⟩

/-! ## The blocks that are reported -/

/-- No two of the blocks begin on the same line of the same file, however its
    path is spelled. -/
def ReportedOnce (fs : FileSystem) (bs : List Block) : Prop :=
  bs.Pairwise fun a b => ¬ (fs.resolve a.file = fs.resolve b.file ∧ a.firstLine = b.firstLine)

theorem blocksOf_spec {path : String} :
    (∀ b ∈ blocksOf fs sc path, b.file = path ∧ b.firstLine ≤ b.lastLine) ∧
      (blocksOf fs sc path).Pairwise fun a b => a.lastLine < b.firstLine := by
  unfold blocksOf
  split
  · next text _ =>
    rw [BlockScanner.scan_eq_run]
    refine ⟨fun b hb => ⟨?_, (BlockScanner.run_bounds hb).2.1⟩, BlockScanner.run_pairwise 1 _⟩
    obtain ⟨_, _, _, _, _, -, -, -, rfl⟩ := BlockScanner.mem_run hb
    rfl
  · exact ⟨by simp, .nil⟩

/-- The blocks of files at different places are found once. -/
theorem reportedOnce_found {files : List String} (h : Walk.Once fs files) :
    ReportedOnce fs (found fs sc files) := by
  refine List.pairwise_flatMap.2 ⟨fun path _ => ?_, h.imp fun {p q} hne a ha b hb => ?_⟩
  · refine blocksOf_spec.2.imp_of_mem fun {a b} ha _ hlt heq => ?_
    have := (blocksOf_spec.1 a ha).2
    omega
  · rintro ⟨heq, -⟩
    rw [(blocksOf_spec.1 a ha).1, (blocksOf_spec.1 b hb).1] at heq
    exact hne heq

/-- The file of a block, and its first and last lines. -/
def extent (b : Block) : String × Nat × Nat := (b.file, b.firstLine, b.lastLine)

/-- What a mode keeps is at the extents of blocks that were found, in order. -/
theorem extent_applyMode (r : Request) (bs : List Block) :
    ((applyMode r bs).map extent).Sublist (bs.map extent) := by
  refine ((Selection.keep_sublist _ _).map extent).trans ?_
  have hsanitize : (Reference.sanitize bs).map extent = bs.map extent := by
    rw [Reference.sanitize, List.map_map]
    rfl
  have hfilter : ∀ test : Block → Bool, ((bs.filter test).map extent).Sublist (bs.map extent) :=
    fun test => List.filter_sublist.map extent
  unfold keepByMode
  split
  · refine ((Selection.keep_sublist _ _).map extent).trans ?_
    split
    · exact List.Sublist.refl _
    · rw [hsanitize]
  · exact ((Selection.keep_sublist _ _).map extent).trans (hfilter _)
  · exact ((Selection.keep_sublist _ _).map extent).trans (hfilter _)
  all_goals exact (Selection.keep_sublist _ _).map extent

/-- What holds between the extents of blocks, in order, holds between those kept. -/
theorem pairwise_applyMode {R : String × Nat × Nat → String × Nat × Nat → Prop} (r : Request)
    {bs : List Block} (h : bs.Pairwise fun a b => R (extent a) (extent b)) :
    (applyMode r bs).Pairwise fun a b => R (extent a) (extent b) :=
  List.pairwise_map.1 ((List.pairwise_map.2 h).sublist (extent_applyMode r bs))

/-- The file of a block and the line that it begins on. -/
def position (b : Block) : String × Nat := (b.file, b.firstLine)

theorem ReportedOnce.applyMode {bs : List Block} (h : ReportedOnce fs bs) (r : Request) :
    ReportedOnce fs (applyMode r bs) :=
  pairwise_applyMode (R := fun a b => ¬ (fs.resolve a.1 = fs.resolve b.1 ∧ a.2.1 = b.2.1)) r h

/-- **When each file is collected once.**  Roots that exist and globs that are
    well formed give a list of files.  Each file is in it once exactly if every
    root that lies at or below another one, where both find a common file, is
    spelled as a path below it, as all roots are that are spelled from one
    start with names only.  A survey then reports no block twice. -/
theorem once_iff {s : Settings} {r : Request} {roots : List String} {m : FileMatcher}
    (hproper : fs.root.Proper) (hroots : ∀ root ∈ roots, ∃ n, fs.node root = .ok n)
    (hm : FileMatcher.ofSettings s.scan r.files = .ok m) :
    ∃ files, Walk.collectAll fs s.scan r.files roots = .ok files ∧
      (Walk.Once fs files ↔ Walk.Aligned fs m s.scan.maxDepth roots) ∧
      (∀ start, (∀ root ∈ roots, ∃ names : List String,
        components root = start ++ names.map .name) → Walk.Once fs files) ∧
      (Walk.Once fs files →
        ∀ out, scanPaths fs s r roots = .ok out → ReportedOnce fs out.blocks) := by
  have hall := Walk.collectAll_eq hroots hm
  have honce : Walk.Once fs (Walk.addPaths [] (Walk.foundPaths fs m s.scan.maxDepth roots)) ↔
      Walk.Aligned fs m s.scan.maxDepth roots := Walk.once_iff_aligned hproper
  refine ⟨_, hall, honce, fun start hstart => honce.2 (Walk.aligned_of_start hstart), ?_⟩
  intro honce out hout
  obtain ⟨files, hfiles, hread⟩ := files_scanPaths hout
  obtain rfl := Except.ok.inj (hall.symm.trans hfiles)
  obtain ⟨types, -, hblocks⟩ := scanPaths_eq_ok hout
  rw [hblocks]
  exact (reportedOnce_found (List.Pairwise.sublist hread honce)).applyMode r

/-- A folder with a file with a network. -/
def modulesFolder : List (String × Node) :=
  [("main.tf", .file (Text.encode "resource \"aws_vpc\" \"main\" \x7b\n\x7d\n".toList))]

/-- A tree with that folder. -/
def modulesFile : FileSystem where
  root := .folder [("modules", .folder modulesFolder)]
  working := []

theorem proper_modulesFile : modulesFile.root.Proper :=
  .cons (by decide) (by decide) (.cons (by decide) (by decide) (.file _) .nil) .nil

theorem node_modulesFile : modulesFile.node "." = .ok modulesFile.root ∧
    modulesFile.node "modules" = .ok (.folder modulesFolder) ∧
    modulesFile.node "modules//" = .ok (.folder modulesFolder) := ⟨rfl, rfl, rfl⟩

/-- What is found from the working folder, and from the one below it. -/
theorem exists_foundAt_modulesFile : ∃ m, FileMatcher.ofSettings {} [] = .ok m ∧
    Walk.foundAt modulesFile m 100 "." = [["modules", "main.tf"]] ∧
    Walk.foundAt modulesFile m 100 "modules" = [["main.tf"]] ∧
    Walk.foundAt modulesFile m 100 "modules//" = [["main.tf"]] := by
  obtain ⟨m, hm, hfound⟩ : ∃ m, FileMatcher.ofSettings {} [] = .ok m ∧
      [modulesFile.root, .folder modulesFolder].map (fun n =>
        (n.filesBelow 100).filter fun names => m.selects (ofNames names)) =
          [[["modules", "main.tf"]], [["main.tf"]]] := exists_eq_ok (by decide +kernel)
  obtain ⟨hroot, hrest⟩ := List.cons.inj hfound
  obtain ⟨hfolder, -⟩ := List.cons.inj hrest
  obtain ⟨hhere, hmodules, hslashes⟩ := node_modulesFile
  have hlower : Walk.selected m 100 (.folder modulesFolder) = [["main.tf"]] :=
    Walk.selected_eq (.of_eq hfolder) (List.pairwise_singleton _ _)
  refine ⟨m, hm, ?_, ?_, ?_⟩
  · rw [Walk.foundAt, hhere]
    exact Walk.selected_eq (.of_eq hroot) (List.pairwise_singleton _ _)
  · rw [Walk.foundAt, hmodules]
    exact hlower
  · rw [Walk.foundAt, hslashes]
    exact hlower

/-- Two spellings with and without slashes are one path. -/
theorem once_modules_slashes :
    modulesFile.root.Proper ∧
      (∀ root ∈ ["modules", "modules//"], ∃ n, modulesFile.node root = .ok n) ∧
      ∃ m, FileMatcher.ofSettings ({} : Settings).scan ({} : Request).files = .ok m ∧
        ∃ files, Walk.collectAll modulesFile {} [] ["modules", "modules//"] = .ok files ∧
          files = ["modules/main.tf"] ∧ Walk.Once modulesFile files ∧
          ∀ out, scanPaths modulesFile {} {} ["modules", "modules//"] = .ok out →
            ReportedOnce modulesFile out.blocks := by
  obtain ⟨-, hmodules, hslashes⟩ := node_modulesFile
  have hroots : ∀ root ∈ ["modules", "modules//"], ∃ n, modulesFile.node root = .ok n :=
    List.forall_mem_cons.2 ⟨⟨_, hmodules⟩, List.forall_mem_singleton.2 ⟨_, hslashes⟩⟩
  obtain ⟨m, hm, -, hfirst, hsecond⟩ := exists_foundAt_modulesFile
  refine ⟨proper_modulesFile, hroots, m, hm, ?_⟩
  obtain ⟨files, hfiles, -, hstart, honce⟩ :=
    once_iff (s := {}) (r := {}) proper_modulesFile hroots hm
  have hlist : files = ["modules/main.tf"] := by
    have hdepth : ({} : Settings).scan.maxDepth = 100 := rfl
    have heq := Except.ok.inj (hfiles.symm.trans (Walk.collectAll_eq hroots hm))
    rw [heq, Walk.foundPaths, List.flatMap_cons, List.flatMap_singleton, hdepth, hfirst, hsecond]
    decide +kernel
  have hnames : ∀ root ∈ ["modules", "modules//"], ∃ names : List String,
      components root = [] ++ names.map .name :=
    List.forall_mem_cons.2 ⟨⟨["modules"], rfl⟩, List.forall_mem_singleton.2 ⟨["modules"], rfl⟩⟩
  exact ⟨files, hfiles, hlist, hstart [] hnames, honce (hstart [] hnames)⟩

/-- **`.` and a folder below it find the same file twice**: it is collected under
    two paths, and its block is reported twice. -/
theorem dot_and_subfolder :
    modulesFile.root.Proper ∧ (∀ root ∈ [".", "modules"], ∃ n, modulesFile.node root = .ok n) ∧
      ∃ files, Walk.collectAll modulesFile {} [] [".", "modules"] = .ok files ∧
        files = ["./modules/main.tf", "modules/main.tf"] ∧ ¬ Walk.Once modulesFile files ∧
        ∃ out, scanPaths modulesFile {} {} [".", "modules"] = .ok out ∧
          ¬ ReportedOnce modulesFile out.blocks := by
  obtain ⟨hhere, hmodules, -⟩ := node_modulesFile
  have hroots : ∀ root ∈ [".", "modules"], ∃ n, modulesFile.node root = .ok n :=
    List.forall_mem_cons.2 ⟨⟨_, hhere⟩, List.forall_mem_singleton.2 ⟨_, hmodules⟩⟩
  obtain ⟨m, hm, hfirst, hsecond, -⟩ := exists_foundAt_modulesFile
  have hfiles : Walk.collectAll modulesFile {} [] [".", "modules"] =
      .ok ["./modules/main.tf", "modules/main.tf"] := by
    have hdepth : ({} : ScanSettings).maxDepth = 100 := rfl
    rw [Walk.collectAll_eq hroots hm, Walk.foundPaths, List.flatMap_cons, List.flatMap_singleton,
      hdepth, hfirst, hsecond]
    refine congrArg Except.ok ?_
    decide +kernel
  have hplace : modulesFile.resolve "./modules/main.tf" =
      modulesFile.resolve "modules/main.tf" := by decide +kernel
  refine ⟨proper_modulesFile, hroots, _, hfiles, rfl, ?_, ?_⟩
  · exact fun honce => (List.pairwise_cons.1 honce).1 _ (List.mem_singleton_self _) hplace
  · obtain ⟨all, hall, hblocks⟩ : ∃ all, ["./modules/main.tf", "modules/main.tf"].foldlM
        (scanFile modulesFile ⟨.resource, []⟩ true) Outcome.empty = .ok all ∧
          (applyMode {} all.blocks).map position =
            [("./modules/main.tf", 1), ("modules/main.tf", 1)] := exists_eq_ok (by decide +kernel)
    have hout : scanPaths modulesFile {} {} [".", "modules"] =
        .ok { all with blocks := applyMode {} all.blocks } :=
      bind_eq_ok.2 ⟨_, hfiles, bind_eq_ok.2 ⟨[], rfl, bind_eq_ok.2 ⟨all, hall, rfl⟩⟩⟩
    refine ⟨_, hout, fun honce => ?_⟩
    have hpositions : ((applyMode {} all.blocks).map position).Pairwise fun a b =>
        ¬ (modulesFile.resolve a.1 = modulesFile.resolve b.1 ∧ a.2 = b.2) :=
      List.pairwise_map.2 honce
    rw [hblocks] at hpositions
    exact (List.pairwise_cons.1 hpositions).1 _ (List.mem_singleton_self _) ⟨hplace, rfl⟩

end InfraEvidence.Survey
