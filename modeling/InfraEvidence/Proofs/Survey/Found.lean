/-
  InfraEvidence — the blocks that a survey finds.

  * `Survey.found`: the blocks of some files, one file after the other;
  * `scanFile_eq_ok`: what one more file does to a survey that goes on;
  * `Accounts`: the blocks of an outcome are the blocks of its files, which a
    file (`Accounts.scanFile`) and so any number of files
    (`Accounts.foldlM`) keeps;
  * `scanPaths_eq_ok`: a survey that succeeds keeps by its mode what is found
    in the files that it read.
-/
import InfraEvidence.Survey

namespace InfraEvidence

theorem bind_eq_ok {ε α β : Type} {x : Except ε α} {f : α → Except ε β} {b : β} :
    (x >>= f) = .ok b ↔ ∃ a, x = .ok a ∧ f a = .ok b := by
  cases x with
  | error e => simp [bind, Except.bind]
  | ok a => simp [bind, Except.bind]

theorem exists_eq_ok {ε α β : Type} {x : Except ε α} {f : α → β} {y : β}
    (h : x.toOption.map f = some y) : ∃ a, x = .ok a ∧ f a = y := by
  cases x with
  | error e => contradiction
  | ok a => exact ⟨a, rfl, Option.some.inj h⟩

namespace Survey

/-- The blocks of a file, none if it cannot be read. -/
def blocksOf (fs : FileSystem) (sc : BlockScanner) (path : String) : List Block :=
  match readText fs path with
  | .ok text => sc.scan path text
  | .error _ => []

/-- The blocks of some files. -/
def found (fs : FileSystem) (sc : BlockScanner) (files : List String) : List Block :=
  files.flatMap (blocksOf fs sc)

variable {fs : FileSystem} {sc : BlockScanner}

/-- One more file is read, or its fault is one that a survey goes on after. -/
theorem scanFile_eq_ok {goOn : Bool} {acc out : Outcome} {path : String}
    (h : scanFile fs sc goOn acc path = .ok out) :
    (∃ text, readText fs path = .ok text ∧ out = acc.append ⟨sc.scan path text, [path], []⟩) ∨
      ∃ fault, readText fs path = .error fault ∧ goOn = true ∧ fault.isRecoverable = true ∧
        out = acc.append ⟨[], [], [fault]⟩ := by
  unfold scanFile at h
  split at h
  · next text htext => exact Or.inl ⟨text, htext, (Except.ok.inj h).symm⟩
  · next fault hfault =>
    split at h
    · next hgo =>
      obtain ⟨hon, hrecoverable⟩ := Bool.and_eq_true_iff.1 hgo
      exact Or.inr ⟨fault, hfault, hon, hrecoverable, (Except.ok.inj h).symm⟩
    · contradiction

/-- The blocks of an outcome are those of the files that were read. -/
def Accounts (fs : FileSystem) (sc : BlockScanner) (o : Outcome) : Prop :=
  o.blocks = found fs sc o.files

theorem accounts_empty : Accounts fs sc Outcome.empty := rfl

theorem Accounts.scanFile {goOn : Bool} {acc out : Outcome} {path : String}
    (hacc : Accounts fs sc acc) (h : scanFile fs sc goOn acc path = .ok out) :
    Accounts fs sc out := by
  rcases scanFile_eq_ok h with ⟨text, htext, rfl⟩ | ⟨fault, -, -, -, rfl⟩
  · have hone : blocksOf fs sc path = sc.scan path text := by rw [blocksOf, htext]
    simp only [Accounts, Outcome.append, found, List.flatMap_append, List.flatMap_singleton, hone]
    rw [hacc, found]
  · simpa [Accounts, Outcome.append] using hacc

theorem Accounts.foldlM {goOn : Bool} {files : List String} {acc out : Outcome}
    (hacc : Accounts fs sc acc) (h : files.foldlM (Survey.scanFile fs sc goOn) acc = .ok out) :
    Accounts fs sc out := by
  induction files generalizing acc with
  | nil => exact Except.ok.inj h ▸ hacc
  | cons path files ih =>
    rw [List.foldlM_cons] at h
    obtain ⟨next, hnext, hrest⟩ := bind_eq_ok.1 h
    exact ih (hacc.scanFile hnext) hrest

/-- **A survey that succeeds** keeps by its mode what is found in the files
    that it read. -/
theorem scanPaths_eq_ok {s : Settings} {r : Request} {roots : List String} {out : Outcome}
    (h : scanPaths fs s r roots = .ok out) :
    ∃ types, AllowList.parse? r.types = .ok types ∧
      out.blocks = applyMode r (found fs ⟨r.mode.blockKind, types⟩ out.files) := by
  unfold scanPaths at h
  obtain ⟨files, -, h⟩ := bind_eq_ok.1 h
  obtain ⟨types, htypes, h⟩ := bind_eq_ok.1 h
  obtain ⟨all, hall, h⟩ := bind_eq_ok.1 h
  obtain rfl := Except.ok.inj h
  refine ⟨types, htypes, congrArg (applyMode r) ?_⟩
  exact Accounts.foldlM accounts_empty hall

end Survey

end InfraEvidence
