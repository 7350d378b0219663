/-
  InfraEvidence — what a run does to the files.

  * `Program.Delivers`: a report is put out, or is all of the file that is named
    for it, and no other file changes;
  * `Program.CanDeliver`: the file that is named for a report can be written;
  * `Program.LoadsSettings`: where the settings of a run come from;
  * `Program.ReportsScan`, `Program.ReportsPosture`: how the reports come about,
    from the check of the settings to the rendered text;
  * `Program.scan_eq_ok`, `Program.posture_eq_ok`, `Program.writeExample_eq_ok`:
    what the commands leave behind when they succeed;
  * `Program.exists_scan`, `Program.exists_posture`: they succeed if the report
    comes about and can be put out;
  * `Program.run_writes_own_file`: a run that fails changes nothing, and one that
    succeeds changes its own file only.
-/
import InfraEvidence.Program
import InfraEvidence.Proofs.Files.Written

namespace InfraEvidence

theorem Failure.ofFault_eq_ok {α : Type} {r : Except Fault α} {a : α} :
    Failure.ofFault r = .ok a ↔ r = .ok a := by
  cases r <;> simp [ofFault, Except.mapError]

namespace Program

variable {fs : FileSystem} {w : Surroundings} {s : Settings} {ending : Ending}

/-! ## Putting a text out -/

/-- The report is put out, or it is what the file named for it has; nothing else
    changes. -/
def Delivers (fs : FileSystem) (ending : Ending) (output : Option String) (report : String) :
    Prop :=
  match output with
  | none => filesAfter fs ending = fs ∧ ending.output = report ++ "\n"
  | some path =>
    ∃ place, fs.Wrote (filesAfter fs ending) path place (Text.encode report.toList)

theorem filesAfter_of_written_eq_none (h : ending.written = none) : filesAfter fs ending = fs := by
  rw [filesAfter, h]

theorem filesAfter_of_written {fs' : FileSystem} {path text : String}
    (h : ending.written = some ⟨path, text⟩)
    (hwrite : fs.write path (Text.encode text.toList) = .ok fs') : filesAfter fs ending = fs' := by
  rw [filesAfter, h]
  simp only [hwrite]
  rfl

theorem putOut_some_eq_ok {path text : String} {code : Nat}
    (h : putOut fs (some path) text code = .ok ending) :
    ending.code = code ∧ ending.written = some ⟨path, text⟩ ∧
      ∃ fs', fs.write path (Text.encode text.toList) = .ok fs' := by
  simp only [putOut] at h
  split at h
  · next place hplace =>
    obtain rfl := Except.ok.inj h
    exact ⟨rfl, rfl, _, by rw [FileSystem.write, hplace]; rfl⟩
  · contradiction

/-- **A text that is put out** is all that there is, wherever it goes. -/
theorem putOut_eq_ok {output : Option String} {report : String} {code : Nat}
    (h : putOut fs output report code = .ok ending) :
    ending.code = code ∧ Delivers fs ending output report := by
  cases output with
  | none =>
    obtain rfl := Except.ok.inj h
    exact ⟨rfl, rfl, rfl⟩
  | some path =>
    obtain ⟨hcode, hwritten, fs', hwrite⟩ := putOut_some_eq_ok h
    obtain ⟨place, hwrote, -⟩ := FileSystem.wrote_of_write hwrite
    rw [← filesAfter_of_written hwritten hwrite] at hwrote
    exact ⟨hcode, place, hwrote⟩

/-- The file that is named for a report, if there is one, can be written. -/
def CanDeliver (fs : FileSystem) (output : Option String) (report : String) : Prop :=
  ∀ path ∈ output, ∃ fs', fs.write path (Text.encode report.toList) = .ok fs'

theorem exists_putOut {output : Option String} {report : String}
    (h : CanDeliver fs output report) (code : Nat) :
    ∃ ending, putOut fs output report code = .ok ending := by
  cases output with
  | none => exact ⟨_, rfl⟩
  | some path =>
    obtain ⟨fs', hwrite⟩ := h path rfl
    cases hplace : fs.placeFor path with
    | error f => simp [FileSystem.write, hplace, Except.map] at hwrite
    | ok place => exact ⟨_, by rw [putOut, hplace]⟩

/-! ## Settings -/

/-- The settings of a run are those in the file that is found for them; without
    such a file nothing is set. -/
def LoadsSettings (w : Surroundings) (named : Option String) (s : Settings) : Prop :=
  match locate? w.files w.settingsFolder named with
  | some path => ∃ text, Survey.readText w.files path = .ok text ∧ Settings.read w.env text = .ok s
  | none => s = {}

theorem settings_eq_ok {named : Option String} :
    settings w named = .ok s ↔ LoadsSettings w named s := by
  rw [settings, LoadsSettings]
  cases locate? w.files w.settingsFolder named with
  | none => exact ⟨fun h => (Except.ok.inj h).symm, fun h => congrArg _ h.symm⟩
  | some path => exact bind_eq_ok

/-! ## Reports -/

/-- The report on the evidence of some roots, and the outcome of the survey behind
    it.  The settings `s` are those of the run as the command line changes them. -/
structure ReportsScan (w : Surroundings) (s : Settings) (c : ScanCommand) (outcome : Outcome)
    (report : String) : Prop where
  valid : s.validate = .ok ()
  /-- Without control codes, the survey is for what is requested -/
  requested : c.controls = [] →
    Survey.scanPaths w.files s c.request (rootsOf c.paths s) = .ok outcome
  /-- Else it is for the types of these codes -/
  mapped : c.controls ≠ [] →
    Survey.scanForControls w.files s c.controls (rootsOf c.paths s) = .ok outcome
  /-- The report states the commit, unless it is blank -/
  rendered : report = Reporter.render
    { time := w.now
      commit := c.commit.bind fun commit =>
        if Text.trimmed commit = "" then none else some (Text.trimmed commit)
      pretty := s.output.pretty
      colored := s.output.colored }
    (c.format.getD s.output.format) outcome.blocks

/-- The report on the posture of some roots, and the analyses behind it. -/
structure ReportsPosture (w : Surroundings) (s : Settings) (c : PostureCommand)
    (analyses : List Posture.Analysis) (report : String) : Prop where
  valid : s.validate = .ok ()
  analysed : ∃ outcome, Survey.scanPaths w.files s { mode := .resourceTypes }
      (rootsOf c.paths s) = .ok outcome ∧ analyses = Posture.analyzeAll outcome.blocks
  rendered : Reporter.renderPosture?
    { time := w.now
      commit := none
      pretty := s.output.pretty
      colored := usesColors w s c }
    c.format analyses = .ok report

theorem surveyFor_eq_ok {c : ScanCommand} {outcome : Outcome} :
    surveyFor fs s c = .ok outcome ↔
      (c.controls = [] → Survey.scanPaths fs s c.request (rootsOf c.paths s) = .ok outcome) ∧
        (c.controls ≠ [] →
          Survey.scanForControls fs s c.controls (rootsOf c.paths s) = .ok outcome) := by
  rw [surveyFor]
  by_cases hnone : c.controls = []
  · simp [hnone]
  · simp [hnone]

/-- The steps of a report that comes about. -/
theorem scanReport_eq_ok {c : ScanCommand} {report : String} :
    scanReport w s c = .ok report ↔ ∃ outcome, ReportsScan w (c.adjust s) c outcome report := by
  constructor
  · intro h
    obtain ⟨⟨⟩, hvalid, h⟩ := bind_eq_ok.1 h
    obtain ⟨outcome, hsurvey, h⟩ := bind_eq_ok.1 h
    obtain ⟨hrequested, hmapped⟩ := surveyFor_eq_ok.1 hsurvey
    refine ⟨outcome, hvalid, hrequested, hmapped, ?_⟩
    obtain rfl := Except.ok.inj h
    cases c.commit <;> rfl
  · rintro ⟨outcome, hvalid, hrequested, hmapped, rfl⟩
    have hsurvey : surveyFor w.files (c.adjust s) c = .ok outcome :=
      surveyFor_eq_ok.2 ⟨hrequested, hmapped⟩
    refine bind_eq_ok.2 ⟨(), hvalid, bind_eq_ok.2 ⟨outcome, hsurvey, ?_⟩⟩
    cases c.commit <;> rfl

/-! ## Commands -/

theorem scan_eq_ok {c : ScanCommand} (h : scan w s c = .ok ending) :
    ∃ outcome report, ReportsScan w (c.adjust s) c outcome report ∧ ending.code = 0 ∧
      Delivers w.files ending c.output report := by
  obtain ⟨report, hreport, h⟩ := bind_eq_ok.1 h
  obtain ⟨outcome, hsteps⟩ := scanReport_eq_ok.1 (Failure.ofFault_eq_ok.1 hreport)
  obtain ⟨hcode, hdelivers⟩ := putOut_eq_ok h
  exact ⟨outcome, report, hsteps, hcode, hdelivers⟩

theorem exists_scan {c : ScanCommand} {outcome : Outcome} {report : String}
    (hsteps : ReportsScan w (c.adjust s) c outcome report)
    (hdeliver : CanDeliver w.files c.output report) : ∃ ending, scan w s c = .ok ending := by
  obtain ⟨ending, hput⟩ := exists_putOut hdeliver 0
  have hreport : Failure.ofFault (scanReport w s c) = .ok report :=
    Failure.ofFault_eq_ok.2 (scanReport_eq_ok.2 ⟨outcome, hsteps⟩)
  exact ⟨ending, bind_eq_ok.2 ⟨report, hreport, hput⟩⟩

/-- The exit code tells whether the score of some analyses is less than the one that
    is required, if one is. -/
def scoreCode (c : PostureCommand) (analyses : List Posture.Analysis) : Nat :=
  if ∃ required ∈ c.minScore, (Posture.complianceScore analyses).overall < required then 2 else 0

theorem scoreCode_eq (c : PostureCommand) (analyses : List Posture.Analysis) :
    scoreCode c analyses = if missesScore c analyses then 2 else 0 := by
  rw [scoreCode, missesScore]
  cases c.minScore <;> simp

theorem scoreCode_ne_one (c : PostureCommand) (analyses : List Posture.Analysis) :
    scoreCode c analyses ≠ 1 := by
  rw [scoreCode]
  split <;> decide

theorem posture_eq_ok {c : PostureCommand} (h : posture w s c = .ok ending) :
    ∃ analyses report, ReportsPosture w s c analyses report ∧
      ending.code = scoreCode c analyses ∧ Delivers w.files ending c.output report := by
  obtain ⟨⟨⟩, hvalid, h⟩ := bind_eq_ok.1 h
  obtain ⟨analyses, hanalyses, h⟩ := bind_eq_ok.1 h
  obtain ⟨report, hreport, h⟩ := bind_eq_ok.1 h
  obtain ⟨hcode, hdelivers⟩ := putOut_eq_ok h
  obtain ⟨outcome, hsurvey, hjudged⟩ := bind_eq_ok.1 (Failure.ofFault_eq_ok.1 hanalyses)
  have hsteps : ReportsPosture w s c analyses report :=
    { valid := Failure.ofFault_eq_ok.1 hvalid
      analysed := ⟨outcome, hsurvey, (Except.ok.inj hjudged).symm⟩
      rendered := Failure.ofFault_eq_ok.1 hreport }
  exact ⟨analyses, report, hsteps, hcode.trans (scoreCode_eq c analyses).symm, hdelivers⟩

theorem exists_posture {c : PostureCommand} {analyses : List Posture.Analysis} {report : String}
    (hsteps : ReportsPosture w s c analyses report)
    (hdeliver : CanDeliver w.files c.output report) : ∃ ending, posture w s c = .ok ending := by
  obtain ⟨hvalid, ⟨outcome, hsurvey, rfl⟩, hrendered⟩ := hsteps
  obtain ⟨ending, hput⟩ := exists_putOut hdeliver
    (if missesScore c (Posture.analyzeAll outcome.blocks) then 2 else 0)
  have hanalyses : analysesFor w.files s c.paths = .ok (Posture.analyzeAll outcome.blocks) :=
    bind_eq_ok.2 ⟨outcome, hsurvey, rfl⟩
  refine ⟨ending, bind_eq_ok.2 ⟨(), Failure.ofFault_eq_ok.2 hvalid, ?_⟩⟩
  refine bind_eq_ok.2 ⟨_, Failure.ofFault_eq_ok.2 hanalyses, ?_⟩
  exact bind_eq_ok.2 ⟨report, Failure.ofFault_eq_ok.2 hrendered, hput⟩

/-- An example of settings is written where there was no file. -/
def CreatesExample (fs : FileSystem) (ending : Ending) : Prop :=
  fs.hasPath CommandLine.defaultFile = false ∧
    ∃ place, fs.root.look? place = none ∧
      fs.Wrote (filesAfter fs ending) CommandLine.defaultFile place
        (Text.encode Settings.exampleText.toList)

theorem writeExample_eq_ok (h : writeExample fs = .ok ending) :
    ending.code = 0 ∧ CreatesExample fs ending := by
  unfold writeExample at h
  dsimp only at h
  split at h
  · cases h
  next hpath =>
  rw [Bool.not_eq_true] at hpath
  obtain ⟨first, hput, h⟩ := bind_eq_ok.1 h
  obtain rfl := Except.ok.inj h
  obtain ⟨hcode, hwritten, fs', hwrite⟩ := putOut_some_eq_ok hput
  obtain ⟨place, hwrote, hnew⟩ := FileSystem.wrote_of_write hwrite
  refine ⟨hcode, hpath, place, hnew hpath, ?_⟩
  -- the line that is put out besides does not count for the files
  have hafter : filesAfter fs first = fs' := filesAfter_of_written hwritten hwrite
  exact hafter ▸ hwrote

theorem writeExample_eq_error {f : Failure} (h : writeExample fs = .error f) :
    fs.hasPath CommandLine.defaultFile = true ∨
      ∃ failure, fs.write CommandLine.defaultFile (Text.encode Settings.exampleText.toList) =
        .error failure := by
  unfold writeExample at h
  dsimp only at h
  split at h
  · next hpath => exact Or.inl hpath
  · refine Or.inr ?_
    cases hplace : fs.placeFor CommandLine.defaultFile with
    | error failure => exact ⟨failure, by rw [FileSystem.write, hplace]; rfl⟩
    | ok place => simp [putOut, hplace, bind, Except.bind, pure, Except.pure] at h

theorem written_validate (path : String) : (validate w path).written = none := by
  unfold validate
  split <;> rfl

/-- What is left behind by a command that is carried out with the settings `s`. -/
def Effect (w : Surroundings) (s : Settings) (ending : Ending) : Command → Prop
  | .scan c => ∃ outcome report, ReportsScan w (c.adjust s) c outcome report ∧
      ending.code = 0 ∧ Delivers w.files ending c.output report
  | .posture c => ∃ analyses report, ReportsPosture w s c analyses report ∧
      ending.code = scoreCode c analyses ∧ Delivers w.files ending c.output report
  | .init => ending.code = 0 ∧ CreatesExample w.files ending
  | .validate _ => filesAfter w.files ending = w.files

theorem carryOut_eq_ok {i : Invocation} (h : carryOut w i = .ok ending) :
    ∃ s, LoadsSettings w i.config s ∧ Effect w s ending i.command := by
  obtain ⟨s, hsettings, h⟩ := bind_eq_ok.1 h
  refine ⟨s, settings_eq_ok.1 (Failure.ofFault_eq_ok.1 hsettings), ?_⟩
  cases hcommand : i.command with
  | scan c => exact scan_eq_ok (by simpa only [hcommand] using h)
  | posture c => exact posture_eq_ok (by simpa only [hcommand] using h)
  | init => exact writeExample_eq_ok (by simpa only [hcommand] using h)
  | validate path =>
    simp only [hcommand] at h
    exact Except.ok.inj h ▸ filesAfter_of_written_eq_none (written_validate path)

/-- Only the check of settings ends with the code of a failure by itself. -/
theorem Effect.filesAfter_eq {c : Command} (h : Effect w s ending c) (hcode : ending.code = 1) :
    filesAfter w.files ending = w.files := by
  cases c with
  | scan c =>
    obtain ⟨-, -, -, hzero, -⟩ := h
    omega
  | posture c =>
    obtain ⟨analyses, report, -, hscore, -⟩ := h
    exact absurd (hscore.symm.trans hcode) (scoreCode_ne_one c analyses)
  | init => exact absurd (h.1.symm.trans hcode) (by decide)
  | validate path => exact h

/-- Why no example of settings is written: the settings cannot be read, the file
    is there, or it cannot be written. -/
def FailsToCreate (w : Surroundings) (named : Option String) : Prop :=
  (∃ fault, settings w named = .error fault) ∨
    w.files.hasPath CommandLine.defaultFile = true ∨
    ∃ failure, w.files.write CommandLine.defaultFile
      (Text.encode Settings.exampleText.toList) = .error failure

theorem failsToCreate_of_carryOut {i : Invocation} {f : Failure} (hinit : i.command = .init)
    (h : carryOut w i = .error f) : FailsToCreate w i.config := by
  cases hsettings : settings w i.config with
  | error fault => exact Or.inl ⟨fault, hsettings⟩
  | ok s =>
    have hcreate : writeExample w.files = .error f := by
      rw [carryOut, hsettings, hinit] at h
      exact h
    exact Or.inr (writeExample_eq_error hcreate)

/-! ## Runs -/

theorem run_of_carryOut_eq_ok {args : List String} {i : Invocation}
    (hparse : Invocation.parse? w.env args = .ok i) (h : carryOut w i = .ok ending) :
    run w args = ending := by
  simp only [run, hparse, h]

theorem run_of_carryOut_eq_error {args : List String} {i : Invocation} {f : Failure}
    (hparse : Invocation.parse? w.env args = .ok i) (h : carryOut w i = .error f) :
    run w args = { code := 1, error := some ("Error: " ++ f.message) } := by
  simp only [run, hparse, h]

/-- A scan whose report comes about and can be put out does not fail. -/
theorem run_scan_ne_one {args : List String} {i : Invocation}
    (hparse : Invocation.parse? w.env args = .ok i) (c : ScanCommand) (s : Settings)
    (outcome : Outcome) (report : String)
    (hcommand : i.command = .scan c) (hloads : LoadsSettings w i.config s)
    (hsteps : ReportsScan w (c.adjust s) c outcome report)
    (hdeliver : CanDeliver w.files c.output report) : (run w args).code ≠ 1 := by
  obtain ⟨ending, hscan⟩ := exists_scan hsteps hdeliver
  have hcarry : carryOut w i = .ok ending := by
    rw [carryOut, settings_eq_ok.2 hloads, hcommand]
    exact hscan
  obtain ⟨-, -, -, hzero, -⟩ := scan_eq_ok hscan
  rw [run_of_carryOut_eq_ok hparse hcarry, hzero]
  decide

theorem run_posture_ne_one {args : List String} {i : Invocation}
    (hparse : Invocation.parse? w.env args = .ok i) (c : PostureCommand) (s : Settings)
    (analyses : List Posture.Analysis) (report : String)
    (hcommand : i.command = .posture c) (hloads : LoadsSettings w i.config s)
    (hsteps : ReportsPosture w s c analyses report)
    (hdeliver : CanDeliver w.files c.output report) : (run w args).code ≠ 1 := by
  obtain ⟨ending, hposture⟩ := exists_posture hsteps hdeliver
  have hcarry : carryOut w i = .ok ending := by
    rw [carryOut, settings_eq_ok.2 hloads, hcommand]
    exact hposture
  obtain ⟨analyses', -, -, hcode, -⟩ := posture_eq_ok hposture
  rw [run_of_carryOut_eq_ok hparse hcarry, hcode]
  exact scoreCode_ne_one c analyses'

/-- **A run writes its own file only.**  Whatever the files and the command line:

    * a run that ends with the code 1 leaves the files as they were;
    * another run of `scan` or `posture` has loaded its settings and rendered its
      report, which is put out, or is all of the file named for it, while
      everything else is as it was;
    * such a run does not end with the code 1 where the settings can be loaded, the
      report comes about, and the file named for it can be written;
    * a run of `init` that ends otherwise has made the file with the example,
      which was not there; it fails only where the settings cannot be read, or
      the file is there, or cannot be written;
    * a run of `validate` never changes the files. -/
theorem run_writes_own_file {w : Surroundings} {args : List String} {i : Invocation}
    (h : Invocation.parse? w.env args = .ok i) :
    ((run w args).code = 1 → filesAfter w.files (run w args) = w.files) ∧
      (∀ c, i.command = .scan c → (run w args).code ≠ 1 →
        ∃ s outcome report, LoadsSettings w i.config s ∧
          ReportsScan w (c.adjust s) c outcome report ∧
          (run w args).code = 0 ∧ Delivers w.files (run w args) c.output report) ∧
      (∀ c, i.command = .posture c → (run w args).code ≠ 1 →
        ∃ s analyses report, LoadsSettings w i.config s ∧
          ReportsPosture w s c analyses report ∧
          (run w args).code = scoreCode c analyses ∧
          Delivers w.files (run w args) c.output report) ∧
      (i.command = .init →
        (run w args).code = 1 ∧ filesAfter w.files (run w args) = w.files ∧
            FailsToCreate w i.config ∨
          (run w args).code = 0 ∧ CreatesExample w.files (run w args)) ∧
      (∀ path, i.command = .validate path → filesAfter w.files (run w args) = w.files) ∧
      (∀ c s outcome report, i.command = .scan c → LoadsSettings w i.config s →
        ReportsScan w (c.adjust s) c outcome report → CanDeliver w.files c.output report →
        (run w args).code ≠ 1) ∧
      (∀ c s analyses report, i.command = .posture c → LoadsSettings w i.config s →
        ReportsPosture w s c analyses report → CanDeliver w.files c.output report →
        (run w args).code ≠ 1) := by
  have hscans := run_scan_ne_one h
  have hpostures := run_posture_ne_one h
  cases hcarry : carryOut w i with
  | error f =>
    rw [run_of_carryOut_eq_error h hcarry] at hscans hpostures ⊢
    exact ⟨fun _ => rfl, fun _ _ hcode => absurd rfl hcode, fun _ _ hcode => absurd rfl hcode,
      fun hinit => Or.inl ⟨rfl, rfl, failsToCreate_of_carryOut hinit hcarry⟩, fun _ _ => rfl,
      hscans, hpostures⟩
  | ok ending =>
    rw [run_of_carryOut_eq_ok h hcarry] at hscans hpostures ⊢
    obtain ⟨s, hsettings, heffect⟩ := carryOut_eq_ok hcarry
    refine ⟨heffect.filesAfter_eq, fun c hscan _ => ?_, fun c hposture _ => ?_,
      fun hinit => Or.inr ?_, fun path hvalidate => ?_, hscans, hpostures⟩
    · rw [hscan] at heffect
      obtain ⟨outcome, report, hreport, hcode, hdelivers⟩ := heffect
      exact ⟨s, outcome, report, hsettings, hreport, hcode, hdelivers⟩
    · rw [hposture] at heffect
      obtain ⟨analyses, report, hreport, hcode, hdelivers⟩ := heffect
      exact ⟨s, analyses, report, hsettings, hreport, hcode, hdelivers⟩
    · rw [hinit] at heffect
      exact heffect
    · rw [hvalidate] at heffect
      exact heffect

/-- A scan whose report goes into a new file, from which it can be read. -/
theorem run_writes_own_file_report :
    let block := "resource \"aws_vpc\" \"main\" \x7b\n\x7d\n"
    let w : Surroundings := {
      files := ⟨.folder [("main.tf", .file (Text.encode block.toList))], []⟩
      env := fun _ => none
      settingsFolder := none
      now := .epoch
      terminal := false }
    let args := ["tfevidence", "scan", "main.tf", "--format", "csv", "--output", "report.csv"]
    let c : ScanCommand := {
      paths := ["main.tf"]
      request := { mode := .securityControls }
      controls := []
      format := some .csv
      output := some "report.csv"
      commit := none
      continueOnError := false
      maxDepth := none
      excludes := [] }
    Invocation.parse? w.env args =
        .ok { config := none, verbose := 0, quiet := false, command := .scan c } ∧
      (run w args).code = 0 ∧
      ∃ s outcome report, LoadsSettings w none s ∧
        ReportsScan w (c.adjust s) c outcome report ∧
        (filesAfter w.files (run w args)).read "report.csv" =
          .ok (Text.encode report.toList) := by
  intro block w args c
  have hparse : Invocation.parse? w.env args =
      .ok { config := none, verbose := 0, quiet := false, command := .scan c } := by rfl
  have hcode : (run w args).code ≠ 1 := by decide +kernel
  obtain ⟨s, outcome, report, hsettings, hreport, hzero, place, hwrote⟩ :=
    (run_writes_own_file hparse).2.1 c rfl hcode
  exact ⟨hparse, hzero, s, outcome, report, hsettings, hreport, hwrote.read⟩

end Program

end InfraEvidence
