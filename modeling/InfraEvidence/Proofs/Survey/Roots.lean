/-
  InfraEvidence — the order of the roots of a survey.

  * `Survey.perm_applyMode`: blocks in another order are kept in another order,
    with the same values;
  * `Survey.perm_kept`: and so for files;
  * `Survey.scanPaths_perm`: plain roots may come in any order; the blocks are the
    same, and so is the report on them if no two have one type and name.
-/
import InfraEvidence.Proofs.Files.Plain
import InfraEvidence.Proofs.Reference.Subcollection
import InfraEvidence.Proofs.Report.Order
import InfraEvidence.Proofs.Selection.Keep
import InfraEvidence.Proofs.Survey.Unread

namespace InfraEvidence

theorem Reference.perm_sanitize {as bs : List Block} (h : as.Perm bs) :
    (sanitize as).Perm (sanitize bs) := by
  have hknown : ∀ ref, ref ∈ targets as ↔ ref ∈ targets bs := fun ref => (h.map _).mem_iff
  rw [sanitize, sanitize, sanitizeBlock_congr hknown]
  exact h.map _

theorem Selection.perm_keep {test : Block → List Char → Bool} (texts : List String)
    {as bs : List Block} (h : as.Perm bs) : (keep test texts as).Perm (keep test texts bs) := by
  rw [keep_eq_filter, keep_eq_filter]
  exact h.filter _

namespace Survey

variable {fs : FileSystem} {r : Request}

theorem perm_applyMode (r : Request) {as bs : List Block} (h : as.Perm bs) :
    (applyMode r as).Perm (applyMode r bs) := by
  refine Selection.perm_keep _ ?_
  unfold keepByMode
  split
  · refine Selection.perm_keep _ ?_
    split
    · exact h
    · exact Reference.perm_sanitize h
  · exact Selection.perm_keep _ (h.filter _)
  · exact Selection.perm_keep _ (h.filter _)
  all_goals exact Selection.perm_keep _ h

theorem perm_kept (types : AllowList) {files files' : List String} (h : files.Perm files') :
    (kept fs r types files).blocks.Perm (kept fs r types files').blocks :=
  perm_applyMode r ((h.filter _).flatMap_right _)

/-- **The order of the roots does not matter.**  Plain roots that exist, in
    whatever order, give a survey that goes on the same blocks, in some order; and
    if no two of these have one type and name, every report on them is the same. -/
theorem scanPaths_perm {s : Settings} {roots roots' : List String} (hproper : fs.root.Proper)
    (hroots : ∀ root ∈ roots, Path.Plain root ∧ ∃ n, fs.node root = .ok n)
    (hvalid : Valid s r) (hgo : s.scan.continueOnError = true) (hperm : roots.Perm roots') :
    ∃ out out', scanPaths fs s r roots = .ok out ∧ scanPaths fs s r roots' = .ok out' ∧
      out.blocks.Perm out'.blocks ∧
      ((out.blocks.map fun b => (b.type, b.name)).Nodup → ∀ (reporter : Reporter) format,
        reporter.render format out.blocks = reporter.render format out'.blocks) := by
  have hnodes : ∀ root ∈ roots', ∃ n, fs.node root = .ok n := fun root hroot =>
    (hroots root (hperm.mem_iff.2 hroot)).2
  obtain ⟨m, files, types, hm, rfl, hfiles, htypes, hbytes⟩ :=
    exists_candidates hproper (fun root hroot => (hroots root hroot).2) hvalid
  have hfiles' := Walk.collectAll_eq hnodes hm
  have hsame : (Walk.addPaths [] (Walk.foundPaths fs m s.scan.maxDepth roots)).Perm
      (Walk.addPaths [] (Walk.foundPaths fs m s.scan.maxDepth roots')) :=
    Walk.perm_files hproper (fun root hroot => (hroots root hroot).1) hperm
  have hblocks : (kept fs r types _).blocks.Perm (kept fs r types _).blocks := perm_kept types hsame
  refine ⟨_, _, scanPaths_eq_kept hfiles htypes hbytes (Or.inl hgo),
    scanPaths_eq_kept hfiles' htypes (fun _ => read_of_mem_files hproper) (Or.inl hgo), hblocks, ?_⟩
  intro hkeys reporter format
  exact reporter.render_eq_of_perm format hblocks hkeys

/-- A folder, and a file in it with a group. -/
def nestedFile : FileSystem where
  root := .folder [
    ("live", .folder [
      ("a.tf", .file (Text.encode "resource \"aws_vpc\" \"main\" \x7b\n\x7d\n".toList)),
      ("b.tf", .file (Text.encode "resource \"aws_security_group\" \"web\" \x7b\n\x7d\n".toList))])]
  working := []

/-- A root and files below it, in two orders: one finds the network first, the
    other one the group. -/
theorem scanPaths_perm_nested :
    let roots := ["live/b.tf", "live/a.tf"]
    let roots' := ["live/a.tf", "live/b.tf"]
    nestedFile.root.Proper ∧
      (∀ root ∈ roots, Path.Plain root ∧ ∃ n, nestedFile.node root = .ok n) ∧
      Valid {} {} ∧ roots.Perm roots' ∧
      ∃ out out', scanPaths nestedFile {} {} roots = .ok out ∧
        scanPaths nestedFile {} {} roots' = .ok out' ∧
        out.blocks.map (·.name) = ["web", "main"] ∧ out'.blocks.map (·.name) = ["main", "web"] ∧
        ∀ (reporter : Reporter) format,
          reporter.render format out.blocks = reporter.render format out'.blocks := by
  intro roots roots'
  have hproper : nestedFile.root.Proper := by
    refine .cons (by decide) (by decide) ?_ .nil
    exact .cons (by decide) (by decide) (.file _) (.cons (by decide) (by decide) (.file _) .nil)
  have hroots : ∀ root ∈ roots, Path.Plain root ∧ ∃ n, nestedFile.node root = .ok n :=
    List.forall_mem_cons.2 ⟨⟨by decide +kernel, _, rfl⟩,
      List.forall_mem_singleton.2 ⟨by decide +kernel, _, rfl⟩⟩
  have hvalid : Valid {} {} := by decide +kernel
  have hperm : roots.Perm roots' := List.Perm.swap _ _ _
  refine ⟨hproper, hroots, hvalid, hperm, ?_⟩
  obtain ⟨out, out', hout, hout', -, hsame⟩ := scanPaths_perm hproper hroots hvalid rfl hperm
  obtain ⟨first, hfirst, hkeys⟩ : ∃ out, scanPaths nestedFile {} {} roots = .ok out ∧
      out.blocks.map (fun b => (b.type, b.name)) =
        [("aws_security_group", "web"), ("aws_vpc", "main")] := exists_eq_ok (by decide +kernel)
  obtain ⟨second, hsecond, hnames⟩ : ∃ out, scanPaths nestedFile {} {} roots' = .ok out ∧
      out.blocks.map (·.name) = ["main", "web"] := exists_eq_ok (by decide +kernel)
  obtain rfl := Except.ok.inj (hout.symm.trans hfirst)
  obtain rfl := Except.ok.inj (hout'.symm.trans hsecond)
  refine ⟨out, out', hout, hout', ?_, hnames, hsame ?_⟩
  · simpa [Function.comp_def] using congrArg (List.map Prod.snd) hkeys
  · rw [hkeys]
    decide

end Survey

end InfraEvidence
