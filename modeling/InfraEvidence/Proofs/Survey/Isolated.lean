/-
  InfraEvidence — a file that cannot be read does not touch the others.

  * `Survey.isText_without`, `Survey.blocksOf_without`: a tree without a file
    that is no text has the same texts, with the same blocks;
  * `Survey.kept_without`: and a survey of it keeps the same;
  * `Survey.faults_isolated`: the texts among the files of a survey and the
    faults of the others, in order; bytes that are no text are as good as no
    file; and without going on, the first fault is all there is.
-/
import InfraEvidence.Proofs.Files.Remaining
import InfraEvidence.Proofs.Survey.Unread

namespace InfraEvidence.Survey

open InfraEvidence.Path

variable {fs : FileSystem} {gone : List String} {bad : List UInt8}

/-! ## Without a file that is no text -/

theorem resolve_ne_of_isText (hgone : fs.root.at? gone = some (.file bad))
    (hbad : Text.decode? bad = none) {p : String} (h : IsText fs p) : fs.resolve p ≠ .ok gone := by
  intro hp
  obtain ⟨bytes, text, hread, hdecode⟩ := h
  have hsame := FileSystem.read_eq_ok.2 ⟨gone, hp, hgone⟩
  obtain rfl := Except.ok.inj (hread.symm.trans hsame)
  simp [hbad] at hdecode

theorem readText_eq_ok {p text : String} : readText fs p = .ok text ↔
    ∃ bytes cs, fs.read p = .ok bytes ∧ Text.decode? bytes = some cs ∧ text = String.ofList cs := by
  unfold readText
  cases fs.read p with
  | error f => simp
  | ok bytes => cases hdecode : Text.decode? bytes <;> simp [hdecode, eq_comm]

theorem readText_without (hne : gone ≠ []) (hgone : fs.root.at? gone = some (.file bad))
    (hbad : Text.decode? bad = none) {p text : String} :
    readText (fs.without gone) p = .ok text ↔ readText fs p = .ok text := by
  simp only [readText_eq_ok, FileSystem.read_without hne hgone]
  constructor
  · rintro ⟨bytes, cs, ⟨hread, -⟩, hdecode, htext⟩
    exact ⟨bytes, cs, hread, hdecode, htext⟩
  · rintro ⟨bytes, cs, hread, hdecode, htext⟩
    have hother := resolve_ne_of_isText hgone hbad ⟨bytes, cs, hread, hdecode⟩
    exact ⟨bytes, cs, ⟨hread, hother⟩, hdecode, htext⟩

theorem isText_without (hne : gone ≠ []) (hgone : fs.root.at? gone = some (.file bad))
    (hbad : Text.decode? bad = none) {p : String} : IsText (fs.without gone) p ↔ IsText fs p := by
  rw [isText_iff, isText_iff]
  exact exists_congr fun _ => readText_without hne hgone hbad

theorem blocksOf_without (hne : gone ≠ []) (hgone : fs.root.at? gone = some (.file bad))
    (hbad : Text.decode? bad = none) (sc : BlockScanner) (p : String) :
    blocksOf (fs.without gone) sc p = blocksOf fs sc p := by
  by_cases htext : IsText fs p
  · obtain ⟨text, htext⟩ := isText_iff.1 htext
    rw [blocksOf, blocksOf, htext, (readText_without hne hgone hbad).2 htext]
  · rw [blocksOf_of_not_isText htext,
      blocksOf_of_not_isText fun h => htext ((isText_without hne hgone hbad).1 h)]

/-- **A file that is no text is as good as no file.** -/
theorem kept_without (hne : gone ≠ []) (hgone : fs.root.at? gone = some (.file bad))
    (hbad : Text.decode? bad = none) (r : Request) (types : AllowList) (files : List String) :
    let kept' := kept (fs.without gone) r types (files.filter (Walk.leadsElsewhere fs gone))
    kept'.blocks = (kept fs r types files).blocks ∧
      kept'.files = (kept fs r types files).files := by
  have htexts : (files.filter (Walk.leadsElsewhere fs gone)).filter
      (IsText (fs.without gone) ·) = files.filter (IsText fs ·) := by
    rw [List.filter_filter]
    refine List.filter_congr fun p _ => ?_
    have hsame : IsText (fs.without gone) p ↔ IsText fs p := isText_without hne hgone hbad
    by_cases htext : IsText fs p
    · have hother := resolve_ne_of_isText hgone hbad htext
      simp [hsame, htext, Walk.leadsElsewhere, hother]
    · simp [hsame, htext]
  simp only [kept, surveyed, htexts, found, and_true]
  rw [funext (blocksOf_without hne hgone hbad _)]

/-! ## The outcome of a survey -/

variable {s : Settings} {r : Request} {roots : List String}

/-- Whatever bytes a candidate had: with bytes that are no text, and without the
    file, a survey that goes on finds the same. -/
theorem replaced_removed {m : FileMatcher} {types : AllowList} {place : List String}
    {old : Node} (hproper : fs.root.Proper) (hne : place ≠ [])
    (hold : fs.root.at? place = some old) (hbad : Text.decode? bad = none)
    (hm : FileMatcher.ofSettings s.scan r.files = .ok m)
    (htypes : AllowList.parse? r.types = .ok types) (hgo : s.scan.continueOnError = true)
    (hroots : ∀ root ∈ roots, ∃ n, (fs.without place).node root = .ok n) :
    ∃ replaced removed, scanPaths (fs.withFile place bad) s r roots = .ok replaced ∧
      scanPaths (fs.without place) s r roots = .ok removed ∧
      replaced.blocks = removed.blocks ∧ replaced.files = removed.files := by
  -- both trees are made from the one with the bad bytes
  have hsame : (fs.withFile place bad).without place = fs.without place := by
    simp only [FileSystem.without, FileSystem.withFile, Node.erase_set hold hne]
  have hat : (fs.withFile place bad).root.at? place = some (.file bad) := Node.at?_set _ _ _
  have hproper' : (fs.withFile place bad).root.Proper := hproper.set hold (.file bad)
  generalize fs.withFile place bad = fs' at hsame hat hproper'
  rw [← hsame] at hroots ⊢
  have hroots' : ∀ root ∈ roots, ∃ n, fs'.node root = .ok n := by
    intro root hroot
    obtain ⟨n, hn⟩ := hroots root hroot
    obtain ⟨q, n', hq, -, hat', -⟩ := FileSystem.node_without hne hat hn
    exact ⟨n', FileSystem.node_eq_ok.2 ⟨q, hq, hat'⟩⟩
  have hall := Walk.collectAll_eq hroots' hm
  have hrest := Walk.collectAll_without hproper' hne hat hm hroots
  have hreplaced := scanPaths_eq_kept hall htypes (fun _ => read_of_mem_files hproper') (Or.inl hgo)
  have hremoved := scanPaths_eq_kept hrest htypes (fun p hp => ?_) (Or.inl hgo)
  · obtain ⟨hblocks, hfiles⟩ := kept_without hne hat hbad r types _
    exact ⟨_, _, hreplaced, hremoved, hblocks.symm, hfiles.symm⟩
  · obtain ⟨hp, hother⟩ := List.mem_filter.1 hp
    obtain ⟨bytes, hread⟩ := read_of_mem_files hproper' hp
    have hplace : fs'.resolve p ≠ .ok place := by simpa [Walk.leadsElsewhere] using hother
    exact ⟨bytes, (FileSystem.read_without hne hat).2 ⟨hread, hplace⟩⟩

/-- **Faults stay with their files.**  Of the files that are collected, a survey
    that goes on reads those that are texts and has a fault for every other one,
    both in order, and it keeps by its mode the blocks of the texts; with bytes
    that are no text in place of a file it finds what it finds without the file.
    A survey that does not go on has the same outcome if all files are texts, and
    else the fault of the first one that is not. -/
theorem faults_isolated (hproper : fs.root.Proper)
    (hroots : ∀ root ∈ roots, ∃ n, fs.node root = .ok n) (hvalid : Valid s r) :
    ∃ files types, Walk.collectAll fs s.scan r.files roots = .ok files ∧
      AllowList.parse? r.types = .ok types ∧ (files.map components).Nodup ∧
      let texts := files.filter (IsText fs ·)
      let others := files.filter (¬ IsText fs ·)
      let out : Outcome := ⟨applyMode r (found fs ⟨r.mode.blockKind, types⟩ texts), texts,
        others.map .invalidUtf8⟩
      (texts ++ others).Perm files ∧
      (∀ p ∈ others, ∃ bytes, fs.read p = .ok bytes ∧ Text.decode? bytes = none) ∧
      (s.scan.continueOnError = true →
        scanPaths fs s r roots = .ok out ∧
        ∀ p ∈ files, ∀ place bad, fs.resolve p = .ok place → Text.decode? bad = none →
          (∀ root ∈ roots, ∃ n, (fs.without place).node root = .ok n) →
          ∃ replaced removed, scanPaths (fs.withFile place bad) s r roots = .ok replaced ∧
            scanPaths (fs.without place) s r roots = .ok removed ∧
            replaced.blocks = removed.blocks ∧ replaced.files = removed.files) ∧
      (s.scan.continueOnError = false →
        (others = [] → scanPaths fs s r roots = .ok out) ∧
        ∀ p later, others = p :: later → scanPaths fs s r roots = .error (.invalidUtf8 p)) := by
  obtain ⟨m, files, types, hm, hlist, hfiles, htypes, hbytes⟩ :=
    exists_candidates hproper hroots hvalid
  have hnodup : (files.map components).Nodup := hlist ▸ Walk.nodup_addPaths _ List.nodup_nil
  refine ⟨files, types, hfiles, htypes, hnodup, ?_⟩
  intro texts others out
  have hperm : (texts ++ others).Perm files := by
    simpa [texts, others] using List.filter_append_perm (fun p => decide (IsText fs p)) files
  refine ⟨hperm, fun p hp => ?_, fun hgo => ⟨?_, ?_⟩, fun hstop => ⟨?_, ?_⟩⟩
  · obtain ⟨hp, hother⟩ := List.mem_filter.1 hp
    obtain ⟨bytes, hread⟩ := hbytes p hp
    refine ⟨bytes, hread, ?_⟩
    cases hdecode : Text.decode? bytes with
    | none => rfl
    | some text => exact absurd ⟨bytes, text, hread, hdecode⟩ (of_decide_eq_true hother)
  · exact scanPaths_eq_kept hfiles htypes hbytes (Or.inl hgo)
  · intro p hp place bad hplace hbad hrest
    obtain ⟨bytes, hread⟩ := hbytes p hp
    obtain ⟨place', hplace', hat⟩ := FileSystem.read_eq_ok.1 hread
    obtain rfl := Except.ok.inj (hplace.symm.trans hplace')
    exact replaced_removed hproper (FileSystem.place_ne_nil hat hplace) hat hbad hm htypes hgo hrest
  · intro hnone
    refine scanPaths_eq_kept hfiles htypes hbytes (Or.inr fun p hp => ?_)
    simpa using List.filter_eq_nil_iff.1 hnone p hp
  · intro p later hothers
    obtain ⟨before, after, rfl, hbefore, hp, -⟩ := List.filter_eq_cons_iff.1 hothers
    have htexts : ∀ q ∈ before, IsText fs q := fun q hq => by simpa using hbefore q hq
    rw [scanPaths_eq hfiles htypes, hstop,
      foldlM_scanFile_eq_error _ htexts (hbytes p (by simp)) (of_decide_eq_true hp)]
    rfl

/-- A file with a network, and one with a byte that is no text. -/
def latinFile : FileSystem where
  root := .folder [
    ("a.tf", .file (Text.encode "resource \"aws_vpc\" \"main\" \x7b\n\x7d\n".toList)),
    ("b.tf", .file [0xE9])]
  working := []

theorem proper_latinFile : latinFile.root.Proper :=
  .cons (by decide) (by decide) (.file _) (.cons (by decide) (by decide) (.file _) .nil)

theorem collectAll_latinFile (goOn : Bool) :
    Walk.collectAll latinFile { continueOnError := goOn } [] ["."] =
      .ok ["./a.tf", "./b.tf"] := by
  have hroot : latinFile.node "." = .ok latinFile.root := rfl
  obtain ⟨m, hm, hfound⟩ : ∃ m, FileMatcher.ofSettings {} [] = .ok m ∧
      (latinFile.root.filesBelow 100).filter (fun names => m.selects (ofNames names)) =
        [["a.tf"], ["b.tf"]] := exists_eq_ok (by decide +kernel)
  have hselected : Walk.selected m 100 latinFile.root = [["a.tf"], ["b.tf"]] :=
    Walk.selected_eq (.of_eq hfound) (by decide +kernel)
  have hm' : FileMatcher.ofSettings { continueOnError := goOn } [] = .ok m := hm
  rw [Walk.collectAll_eq (List.forall_mem_singleton.2 ⟨_, hroot⟩) hm', Walk.foundPaths,
    List.flatMap_singleton, Walk.foundAt, hroot]
  exact congrArg (fun l => Except.ok (Walk.addPaths [] (l.map (below ".")))) hselected

/-- The network is found, and the other file has a fault; without going on there is
    this fault only. -/
theorem faults_isolated_latin :
    let withStop (goOn : Bool) : Settings := { scan := { continueOnError := goOn } }
    latinFile.root.Proper ∧ (∀ root ∈ ["."], ∃ n, latinFile.node root = .ok n) ∧
      (∀ goOn, Valid (withStop goOn) {}) ∧
      (∃ out, scanPaths latinFile (withStop true) {} ["."] = .ok out ∧
        out.blocks.map (·.canonicalReference) = ["aws_vpc.main"] ∧ out.files = ["./a.tf"] ∧
        out.faults = [.invalidUtf8 "./b.tf"]) ∧
      (∃ replaced removed,
        scanPaths (latinFile.withFile ["a.tf"] [0xFF]) (withStop true) {} ["."] = .ok replaced ∧
        scanPaths (latinFile.without ["a.tf"]) (withStop true) {} ["."] = .ok removed ∧
        replaced.blocks = removed.blocks ∧ replaced.files = removed.files) ∧
      scanPaths latinFile (withStop false) {} ["."] = .error (.invalidUtf8 "./b.tf") := by
  intro withStop
  have hroots : ∀ root ∈ ["."], ∃ n, latinFile.node root = .ok n :=
    List.forall_mem_singleton.2 ⟨_, rfl⟩
  have hvalid : ∀ goOn, Valid (withStop goOn) {} := by decide +kernel
  have htexts : ["./a.tf", "./b.tf"].filter (IsText latinFile ·) = ["./a.tf"] := by decide +kernel
  have hothers : ["./a.tf", "./b.tf"].filter (¬ IsText latinFile ·) = ["./b.tf"] := by
    decide +kernel
  refine ⟨proper_latinFile, hroots, hvalid, ?_⟩
  obtain ⟨files, types, hfiles, htypes, -, -, -, hgo, -⟩ :=
    faults_isolated proper_latinFile hroots (hvalid true)
  obtain rfl := Except.ok.inj ((collectAll_latinFile true).symm.trans hfiles)
  obtain rfl : [] = types := Except.ok.inj htypes
  obtain ⟨hout, hreplaced⟩ := hgo rfl
  refine ⟨?_, ?_, ?_⟩
  · rw [htexts, hothers] at hout
    refine ⟨_, hout, ?_, rfl, rfl⟩
    decide +kernel
  · have hrest : ∀ root ∈ ["."], ∃ n, (latinFile.without ["a.tf"]).node root = .ok n :=
      List.forall_mem_singleton.2 ⟨_, rfl⟩
    exact hreplaced "./a.tf" List.mem_cons_self ["a.tf"] [0xFF] (by decide +kernel)
      (by decide +kernel) hrest
  · obtain ⟨files, types, hfiles, -, -, -, -, -, hstop⟩ :=
      faults_isolated proper_latinFile hroots (hvalid false)
    obtain rfl := Except.ok.inj ((collectAll_latinFile false).symm.trans hfiles)
    exact (hstop rfl).2 _ [] hothers

end InfraEvidence.Survey
