/-
  InfraEvidence — surveys for the types of control codes.

  An empty allow-list admits every type, so a survey for control codes must never
  run with one.

  * `AllowList.admits_iff`: an allow-list that is not empty admits the types that
    one of its globs matches;
  * `BlockScanner.admits_of_mem_scan`: a scan for resources finds admitted types
    only;
  * `Selection.exists_code`: a selection by codes that are not blank keeps only
    blocks with one of them;
  * `Survey.scanForControls_confined`: with checked settings a survey for mapped
    codes succeeds, and finds only what the codes are mapped to.
-/
import InfraEvidence.Proofs.Scan.Narrowing
import InfraEvidence.Proofs.Selection.Terms
import InfraEvidence.Proofs.Settings.Valid
import InfraEvidence.Proofs.Survey.Unread

namespace InfraEvidence

open Text

theorem AllowList.admits_iff {texts : List String} {l : AllowList} {type : String}
    (h : parse? texts = .ok l) (hne : texts ≠ []) :
    l.admits type = true ↔
      ∃ t ∈ texts, ∃ g, Glob.read (trimmed t) = .ok g ∧ g.admits type = true := by
  have hlist : l.isEmpty = false := by
    rw [List.isEmpty_eq_false_iff, ← List.length_pos_iff, ← (mapM_eq_ok_iff.1 h).length_eq]
    exact List.length_pos_iff.2 hne
  rw [admits, hlist, Bool.false_or, any_iff_of_mapM h]

theorem BlockScanner.admits_of_mem_scan {types : AllowList} {file text : String} {b : Block}
    (hb : b ∈ (resources types).scan file text) : types.admits b.type = true := by
  rw [scan_eq_run] at hb
  obtain ⟨_, _, o, _, _, _, ho, _, rfl⟩ := mem_run hb
  exact (open?_resources_eq_some.1 ho).2

namespace Selection

/-- A code that is not blank is a term. -/
theorem terms_ne_nil {codes : List String} {c : String} (hc : c ∈ codes) (h : trimmed c ≠ "") :
    terms codes ≠ [] := by
  refine terms_ne_nil_iff.2 ⟨c, hc, Bool.eq_false_iff.2 fun hblank => h ?_⟩
  rw [trimmed, trim_eq_nil_iff.2 hblank]

/-- A selection by codes keeps blocks with one of them. -/
theorem exists_code {codes : List String} (hne : terms codes ≠ []) {b : Block}
    (h : admits codeMatches codes b = true) :
    ∃ c ∈ codes, ∃ code ∈ b.controls.toList, lowered code = lowered (trimmed c) := by
  obtain ⟨c, hc, -, hcode⟩ := (admits_of_speaks (terms_ne_nil_iff.1 hne)).1 h
  obtain ⟨code, hmem, heq⟩ := List.any_eq_true.1 hcode
  refine ⟨c, hc, code, hmem, (beq_iff_eq.1 heq).trans ?_⟩
  rw [lowered, trimmed, String.toList_ofList]

end Selection

namespace Survey

/-- The request of a survey for control codes. -/
def controlRequest (types codes : List String) : Request :=
  { mode := .resourceTypes, types := types, codes := codes }

theorem mem_kept_controls {fs : FileSystem} {types codes : List String} {allowed : AllowList}
    {files : List String} {b : Block}
    (hb : b ∈ (kept fs (controlRequest types codes) allowed files).blocks) :
    allowed.admits b.type = true ∧ Selection.admits Selection.codeMatches codes b = true := by
  have hsel : b ∈ Selection.keep Selection.codeMatches codes
      (Selection.keep Selection.matchesTerm []
        (found fs (BlockScanner.resources allowed) (files.filter (IsText fs ·)))) := hb
  rw [Selection.keep_eq_filter, Selection.keep_eq_filter] at hsel
  obtain ⟨hmem, hcode⟩ := List.mem_filter.1 hsel
  obtain ⟨path, -, hpath⟩ := List.mem_flatMap.1 (List.mem_filter.1 hmem).1
  refine ⟨?_, hcode⟩
  unfold blocksOf at hpath
  split at hpath
  · exact BlockScanner.admits_of_mem_scan hpath
  · exact absurd hpath List.not_mem_nil

variable {fs : FileSystem} {s : Settings} {codes roots : List String}

/-- **With checked settings a survey for mapped codes succeeds**: the codes have
    types, all globs are well formed, and every block that is found has a type
    that one of the codes is mapped to, and one of the codes. -/
theorem scanForControls_confined (hproper : fs.root.Proper)
    (hroots : ∀ root ∈ roots, ∃ n, fs.node root = .ok n) (hvalid : s.validate = .ok ())
    (hgo : s.scan.continueOnError = true) (hcodes : codes ≠ [])
    (hmapped : ∀ c ∈ codes, trimmed c ≠ "" ∧ ∃ m, s.controls.get? (trimmed c) = some m) :
    ∃ types matcher allowed out, s.typesFor codes = .ok types ∧ types ≠ [] ∧
      FileMatcher.ofSettings s.scan [] = .ok matcher ∧ AllowList.parse? types = .ok allowed ∧
      scanForControls fs s codes roots = .ok out ∧
      ∀ b ∈ out.blocks,
        (∃ c ∈ codes, ∃ t, s.Maps c t ∧
          ∃ g, Glob.read (trimmed t) = .ok g ∧ g.admits b.type = true) ∧
        ∃ c ∈ codes, ∃ code ∈ b.controls.toList, lowered code = lowered (trimmed c) := by
  have hsound : s.Sound := Settings.validate_eq_ok_iff.1 hvalid
  obtain ⟨types, htypes, hmem⟩ := Settings.typesFor_eq_ok fun c hc => (hmapped c hc).2
  -- an empty list of types would admit every type
  have hne : types ≠ [] := by
    obtain ⟨c, hc⟩ := List.exists_mem_of_ne_nil codes hcodes
    obtain ⟨-, m, hm⟩ := hmapped c hc
    obtain ⟨t, ht⟩ := hsound.exists_type hm
    exact List.ne_nil_of_mem ((hmem t).2 ⟨c, hc, ht⟩)
  have hrequest : Valid s (controlRequest types codes) := by
    refine ⟨hsound.globs, nofun, fun t ht => ?_⟩
    obtain ⟨c, -, hc⟩ := (hmem t).1 ht
    exact hsound.wellFormed hc
  obtain ⟨m, files, allowed, hm, -, hfiles, hallowed, hbytes⟩ :=
    exists_candidates hproper hroots hrequest
  have hscan := scanPaths_eq_kept hfiles hallowed hbytes (Or.inl hgo)
  have hrun : scanForControls fs s codes roots =
      .ok (kept fs (controlRequest types codes) allowed files) := by
    rw [scanForControls, htypes]
    exact hscan
  refine ⟨types, m, allowed, _, htypes, hne, hm, hallowed, hrun, fun b hb => ?_⟩
  obtain ⟨hadmitted, hcode⟩ := mem_kept_controls hb
  constructor
  · obtain ⟨t, ht, g, hg, htype⟩ := (AllowList.admits_iff hallowed hne).1 hadmitted
    obtain ⟨c, hc, hmaps⟩ := (hmem t).1 ht
    exact ⟨c, hc, t, hmaps, g, hg, htype⟩
  · obtain ⟨c, hc⟩ := List.exists_mem_of_ne_nil codes hcodes
    exact Selection.exists_code (Selection.terms_ne_nil hc (hmapped c hc).1) hcode

/-- A file with a bucket and a role. -/
def bucketFile : FileSystem where
  root := .folder [
    ("main.tf", .file (Text.encode ("resource \"aws_s3_bucket\" \"logs\" \x7b\n\x7d\n" ++
      "resource \"aws_iam_role\" \"admin\" \x7b\n\x7d\n").toList))]
  working := []

/-- Settings that map a code to buckets. -/
def bucketSettings : Settings where
  controls := Dict.ofList [("CC6.8", { types := [" aws_s3_* "] })]

theorem scanForControls_confined_bucket :
    let codes := [" CC6.8\t"]
    let roots := ["main.tf"]
    bucketFile.root.Proper ∧ (∀ root ∈ roots, ∃ n, bucketFile.node root = .ok n) ∧
      bucketSettings.validate = .ok () ∧ bucketSettings.scan.continueOnError = true ∧ codes ≠ [] ∧
      (∀ c ∈ codes, trimmed c ≠ "" ∧ ∃ m, bucketSettings.controls.get? (trimmed c) = some m) ∧
      ∃ out, scanForControls bucketFile bucketSettings codes roots = .ok out ∧
        out.blocks.map (·.name) = ["logs"] ∧ ∀ b ∈ out.blocks,
          (∃ c ∈ codes, ∃ t, bucketSettings.Maps c t ∧
            ∃ g, Glob.read (trimmed t) = .ok g ∧ g.admits b.type = true) ∧
          ∃ c ∈ codes, ∃ code ∈ b.controls.toList, lowered code = lowered (trimmed c) := by
  intro codes roots
  have hproper : bucketFile.root.Proper :=
    .cons (by decide) (by decide) (.file _) .nil
  have hroots : ∀ root ∈ roots, ∃ n, bucketFile.node root = .ok n :=
    List.forall_mem_singleton.2 ⟨_, rfl⟩
  have hcodes : codes ≠ [] := nofun
  obtain ⟨_, hvalid, -⟩ : ∃ u, bucketSettings.validate = .ok u ∧ true = true :=
    exists_eq_ok (by decide +kernel)
  have hmapped : ∀ c ∈ codes, trimmed c ≠ "" ∧
      ∃ m, bucketSettings.controls.get? (trimmed c) = some m :=
    List.forall_mem_singleton.2 ⟨by decide +kernel, { types := [" aws_s3_* "] }, by decide +kernel⟩
  refine ⟨hproper, hroots, hvalid, rfl, hcodes, hmapped, ?_⟩
  obtain ⟨_, _, _, out, -, -, -, -, hout, hconfined⟩ :=
    scanForControls_confined hproper hroots hvalid rfl hcodes hmapped
  obtain ⟨found, hfound, hnames⟩ : ∃ out, scanForControls bucketFile bucketSettings codes roots =
      .ok out ∧ out.blocks.map (·.name) = ["logs"] := exists_eq_ok (by decide +kernel)
  obtain rfl := Except.ok.inj (hout.symm.trans hfound)
  exact ⟨out, hout, hnames, hconfined⟩

end Survey

end InfraEvidence
