/-
  InfraEvidence — files that a survey cannot read.

  * `Survey.IsText`: a path leads to a file whose bytes are a text;
  * `Survey.surveyed`: what a survey that goes on makes of some files: the
    blocks of the texts, and a fault for every other file;
  * `Survey.foldlM_scanFile`: it is what the run over the files makes of them;
  * `Survey.foldlM_scanFile_eq_error`: a run that does not go on ends with the
    fault of the first file that is no text;
  * `Survey.exists_candidates`: a survey whose roots exist and whose globs are
    well formed is that run, over files.
-/
import InfraEvidence.Proofs.Files.Overlap

namespace InfraEvidence

theorem Outcome.append_assoc (a b c : Outcome) :
    (a.append b).append c = a.append (b.append c) := by
  simp [Outcome.append]

theorem Outcome.empty_append (a : Outcome) : Outcome.empty.append a = a := rfl

theorem Outcome.append_empty (a : Outcome) : a.append Outcome.empty = a := by
  simp [Outcome.append, Outcome.empty]

namespace Survey

variable {fs : FileSystem} {sc : BlockScanner} {path : String}

/-! ## Texts -/

/-- The path leads to a file whose bytes are a text. -/
def IsText (fs : FileSystem) (path : String) : Prop :=
  ∃ bytes text, fs.read path = .ok bytes ∧ Text.decode? bytes = some text

theorem isText_iff : IsText fs path ↔ ∃ text, readText fs path = .ok text := by
  unfold IsText readText
  cases fs.read path with
  | error f => simp
  | ok bytes => cases hdecode : Text.decode? bytes <;> simp [hdecode]

instance (fs : FileSystem) (path : String) : Decidable (IsText fs path) :=
  decidable_of_iff ((readText fs path).isOk = true) <| by
    rw [isText_iff]
    cases readText fs path <;> simp [Except.isOk, Except.toBool]

/-- A file that is no text is one of invalid bytes. -/
theorem readText_of_not_isText (hbytes : ∃ bytes, fs.read path = .ok bytes)
    (h : ¬ IsText fs path) : readText fs path = .error (.invalidUtf8 path) := by
  obtain ⟨bytes, hread⟩ := hbytes
  cases hdecode : Text.decode? bytes with
  | none => simp [readText, hread, hdecode]
  | some text => exact absurd ⟨bytes, text, hread, hdecode⟩ h

theorem blocksOf_of_not_isText (h : ¬ IsText fs path) : blocksOf fs sc path = [] := by
  unfold blocksOf
  split
  · next text htext => exact absurd (isText_iff.2 ⟨text, htext⟩) h
  · rfl

/-! ## The run over the files -/

/-- What a survey that goes on makes of some files. -/
def surveyed (fs : FileSystem) (sc : BlockScanner) (files : List String) : Outcome where
  blocks := found fs sc (files.filter (IsText fs ·))
  files := files.filter (IsText fs ·)
  faults := (files.filter (¬ IsText fs ·)).map .invalidUtf8

theorem surveyed_cons (files : List String) :
    surveyed fs sc (path :: files) = (surveyed fs sc [path]).append (surveyed fs sc files) := by
  by_cases h : IsText fs path <;> simp [surveyed, Outcome.append, found, h]

theorem scanFile_of_isText {goOn : Bool} (acc : Outcome) (h : IsText fs path) :
    scanFile fs sc goOn acc path = .ok (acc.append (surveyed fs sc [path])) := by
  obtain ⟨text, htext⟩ := isText_iff.1 h
  simp [scanFile, htext, surveyed, found, blocksOf, h]

theorem scanFile_of_not_isText {goOn : Bool} (acc : Outcome)
    (hbytes : ∃ bytes, fs.read path = .ok bytes) (h : ¬ IsText fs path) :
    scanFile fs sc goOn acc path =
      if goOn then .ok (acc.append (surveyed fs sc [path])) else .error (.invalidUtf8 path) := by
  have hrecoverable : (Fault.invalidUtf8 path).isRecoverable = true := rfl
  simp [scanFile, readText_of_not_isText hbytes h, hrecoverable, surveyed, found, h]

/-- **A run that goes on, or meets texts only**, comes to its end. -/
theorem foldlM_scanFile {goOn : Bool} {files : List String} (acc : Outcome)
    (hbytes : ∀ p ∈ files, ∃ bytes, fs.read p = .ok bytes)
    (h : goOn = true ∨ ∀ p ∈ files, IsText fs p) :
    files.foldlM (scanFile fs sc goOn) acc = .ok (acc.append (surveyed fs sc files)) := by
  induction files generalizing acc with
  | nil => exact congrArg Except.ok acc.append_empty.symm
  | cons p files ih =>
    have hone : scanFile fs sc goOn acc p = .ok (acc.append (surveyed fs sc [p])) := by
      by_cases htext : IsText fs p
      · exact scanFile_of_isText acc htext
      · have hgo : goOn = true := h.resolve_right fun hall => htext (hall p List.mem_cons_self)
        rw [scanFile_of_not_isText acc (hbytes p List.mem_cons_self) htext, if_pos hgo]
    rw [List.foldlM_cons, hone, surveyed_cons files, ← Outcome.append_assoc]
    refine ih _ (fun q hq => hbytes q (List.mem_cons_of_mem p hq)) ?_
    exact h.imp_right fun hall q hq => hall q (List.mem_cons_of_mem p hq)

/-- **A run that does not go on** ends with the first file that is no text. -/
theorem foldlM_scanFile_eq_error {before after : List String} {p : String} (acc : Outcome)
    (hbefore : ∀ q ∈ before, IsText fs q) (hbytes : ∃ bytes, fs.read p = .ok bytes)
    (hp : ¬ IsText fs p) :
    (before ++ p :: after).foldlM (scanFile fs sc false) acc = .error (.invalidUtf8 p) := by
  have hread : ∀ q ∈ before, ∃ bytes, fs.read q = .ok bytes := by
    intro q hq
    obtain ⟨bytes, -, h, -⟩ := hbefore q hq
    exact ⟨bytes, h⟩
  rw [List.foldlM_append, foldlM_scanFile acc hread (Or.inr hbefore)]
  show List.foldlM _ _ _ = _
  rw [List.foldlM_cons, scanFile_of_not_isText _ hbytes hp]
  rfl

/-! ## The files of a survey -/

/-- The globs of the settings and of the request are well formed. -/
structure Valid (s : Settings) (r : Request) : Prop where
  globs : ∀ g ∈ s.scan.includes ++ s.scan.excludes, Glob.WellFormed g
  files : ∀ g ∈ r.files, Glob.WellFormed g
  types : ∀ t ∈ r.types, Glob.WellFormed (Text.trimmed t)

instance (s : Settings) (r : Request) : Decidable (Valid s r) :=
  decidable_of_iff ((∀ g ∈ s.scan.includes ++ s.scan.excludes, Glob.WellFormed g) ∧
      (∀ g ∈ r.files, Glob.WellFormed g) ∧ ∀ t ∈ r.types, Glob.WellFormed (Text.trimmed t))
    ⟨fun h => ⟨h.1, h.2.1, h.2.2⟩, fun h => ⟨h.1, h.2, h.3⟩⟩

variable {s : Settings} {r : Request} {roots : List String}

theorem Valid.exists_matcher (h : Valid s r) : ∃ m, FileMatcher.ofSettings s.scan r.files = .ok m :=
  let ⟨m, hm, _⟩ := FileMatcher.ofSettings_eq_ok h.globs h.files
  ⟨m, hm⟩

theorem Valid.exists_types (h : Valid s r) : ∃ types, AllowList.parse? r.types = .ok types :=
  exists_mapM_eq_ok h.types

theorem read_of_mem_files {m : FileMatcher} {depth : Nat} (hproper : fs.root.Proper) {p : String}
    (hp : p ∈ Walk.addPaths [] (Walk.foundPaths fs m depth roots)) :
    ∃ bytes, fs.read p = .ok bytes := by
  obtain ⟨root, -, names, hnames, rfl⟩ := Walk.exists_of_mem_files hp
  obtain ⟨place, n, bytes, hplace, hat, hn, hfile⟩ := Walk.file_of_mem_foundAt hproper hnames
  exact ⟨bytes, FileSystem.read_below (FileSystem.node_eq_ok.2 ⟨place, hplace, hat⟩) hn hfile⟩

theorem scanPaths_eq {files : List String} {types : AllowList}
    (hfiles : Walk.collectAll fs s.scan r.files roots = .ok files)
    (htypes : AllowList.parse? r.types = .ok types) :
    scanPaths fs s r roots =
      (files.foldlM (scanFile fs ⟨r.mode.blockKind, types⟩ s.scan.continueOnError)
        Outcome.empty).map fun found => { found with blocks := applyMode r found.blocks } := by
  rw [scanPaths, hfiles, htypes]
  dsimp only [bind, Except.bind]
  cases files.foldlM (scanFile fs ⟨r.mode.blockKind, types⟩ s.scan.continueOnError)
    Outcome.empty <;> rfl

/-- What a request keeps of what a survey makes of some files. -/
def kept (fs : FileSystem) (r : Request) (types : AllowList) (files : List String) : Outcome :=
  let all := surveyed fs ⟨r.mode.blockKind, types⟩ files
  { all with blocks := applyMode r all.blocks }

/-- **A survey that goes on, or whose files are texts**, succeeds. -/
theorem scanPaths_eq_kept {files : List String} {types : AllowList}
    (hfiles : Walk.collectAll fs s.scan r.files roots = .ok files)
    (htypes : AllowList.parse? r.types = .ok types)
    (hbytes : ∀ p ∈ files, ∃ bytes, fs.read p = .ok bytes)
    (h : s.scan.continueOnError = true ∨ ∀ p ∈ files, IsText fs p) :
    scanPaths fs s r roots = .ok (kept fs r types files) := by
  rw [scanPaths_eq hfiles htypes, foldlM_scanFile _ hbytes h, Outcome.empty_append]
  rfl

/-- The files of a survey whose roots exist and whose globs are well formed. -/
theorem exists_candidates (hproper : fs.root.Proper)
    (hroots : ∀ root ∈ roots, ∃ n, fs.node root = .ok n) (hvalid : Valid s r) :
    ∃ m files types, FileMatcher.ofSettings s.scan r.files = .ok m ∧
      files = Walk.addPaths [] (Walk.foundPaths fs m s.scan.maxDepth roots) ∧
      Walk.collectAll fs s.scan r.files roots = .ok files ∧
      AllowList.parse? r.types = .ok types ∧ ∀ p ∈ files, ∃ bytes, fs.read p = .ok bytes := by
  obtain ⟨m, hm⟩ := hvalid.exists_matcher
  obtain ⟨types, htypes⟩ := hvalid.exists_types
  exact ⟨m, _, types, hm, rfl, Walk.collectAll_eq hroots hm, htypes,
    fun _ => read_of_mem_files hproper⟩

end Survey

end InfraEvidence
