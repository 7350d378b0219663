/-
  InfraEvidence — what checked settings promise.

  * `Settings.Sound`: the constraints on settings;
  * `Settings.validate_eq_ok_iff`: a check succeeds exactly for sound settings;
  * `Settings.Maps`: the settings map a control code to a glob for types;
  * `Settings.typesFor_eq_ok`: codes that are mapped have exactly the globs that
    they are mapped to;
  * `Settings.Sound.exists_type`, `Settings.Sound.wellFormed`: in sound settings
    a mapped code has a glob, and all globs of codes are well formed.
-/
import InfraEvidence.Proofs.Files.Matcher
import InfraEvidence.Proofs.Settings.Requested

namespace InfraEvidence

theorem forM_eq_ok_iff {α ε : Type} {xs : List α} {f : α → Except ε Unit} :
    xs.forM f = .ok () ↔ ∀ x ∈ xs, f x = .ok () := by
  induction xs with
  | nil => exact ⟨fun _ => nofun, fun _ => rfl⟩
  | cons x xs ih =>
    show (f x >>= fun _ => xs.forM f) = _ ↔ _
    rw [bind_eq_ok, List.forall_mem_cons]
    constructor
    · rintro ⟨_, hx, hxs⟩
      exact ⟨hx, ih.1 hxs⟩
    · rintro ⟨hx, hxs⟩
      exact ⟨(), hx, ih.2 hxs⟩

theorem map_unit_eq_ok_iff {α ε : Type} {x : Except ε α} :
    (x.map fun _ => ()) = .ok () ↔ ∃ a, x = .ok a := by
  cases x <;> simp [Except.map]

namespace Settings

variable {s : Settings} {codes : List String}

/-! ## The check -/

/-- The constraints on settings. -/
structure Sound (s : Settings) : Prop where
  depth : s.scan.maxDepth ≠ 0
  includes : s.scan.includes ≠ []
  globs : ∀ g ∈ s.scan.includes ++ s.scan.excludes, Glob.WellFormed g
  /-- Every control has types -/
  mapped : ∀ e ∈ s.controls.entries, e.2.types ≠ []
  types : ∀ e ∈ s.controls.entries, ∀ t ∈ e.2.types, Glob.WellFormed (Text.trimmed t)

theorem parse?_eq_ok_iff {texts : List String} :
    (∃ l, AllowList.parse? texts = .ok l) ↔ ∀ t ∈ texts, Glob.WellFormed (Text.trimmed t) := by
  refine ⟨?_, exists_mapM_eq_ok⟩
  rintro ⟨l, hl⟩
  induction mapM_eq_ok_iff.1 hl with
  | nil => exact nofun
  | cons hg _ ih => exact List.forall_mem_cons.2 ⟨⟨_, hg⟩, ih (mapM_eq_ok_iff.2 ‹_›)⟩

theorem validateMapping_eq_ok_iff {e : String × ControlMapping} :
    validateMapping e = .ok () ↔
      e.2.types ≠ [] ∧ ∀ t ∈ e.2.types, Glob.WellFormed (Text.trimmed t) := by
  rw [← parse?_eq_ok_iff, ← map_unit_eq_ok_iff, validateMapping]
  by_cases h : e.2.types = [] <;> simp [h]

/-- **A check succeeds exactly for sound settings.** -/
theorem validate_eq_ok_iff : s.validate = .ok () ↔ s.Sound := by
  have hglobs : ((s.scan.includes ++ s.scan.excludes).forM fun g =>
      (Glob.read g).map fun _ => ()) = .ok () ↔
      ∀ g ∈ s.scan.includes ++ s.scan.excludes, Glob.WellFormed g := by
    rw [forM_eq_ok_iff]
    exact forall₂_congr fun _ _ => map_unit_eq_ok_iff
  have hcontrols : s.controls.entries.forM validateMapping = .ok () ↔
      ∀ e ∈ s.controls.entries,
        e.2.types ≠ [] ∧ ∀ t ∈ e.2.types, Glob.WellFormed (Text.trimmed t) := by
    rw [forM_eq_ok_iff]
    exact forall₂_congr fun _ _ => validateMapping_eq_ok_iff
  have hsteps : s.validate = .ok () ↔ s.scan.maxDepth ≠ 0 ∧ s.scan.includes ≠ [] ∧
      ((s.scan.includes ++ s.scan.excludes).forM fun g =>
        (Glob.read g).map fun _ => ()) = .ok () ∧
      s.controls.entries.forM validateMapping = .ok () := by
    rw [validate]
    by_cases hdepth : s.scan.maxDepth = 0
    · rw [if_pos hdepth]
      exact ⟨nofun, fun h => absurd hdepth h.1⟩
    · by_cases hincludes : s.scan.includes = []
      · rw [if_neg hdepth, hincludes]
        exact ⟨nofun, fun h => absurd rfl h.2.1⟩
      · have hempty : ¬ s.scan.includes.isEmpty = true := by simpa using hincludes
        rw [if_neg hdepth, if_neg hempty]
        show (_ >>= fun _ => s.controls.entries.forM validateMapping) = _ ↔ _
        rw [bind_eq_ok]
        exact ⟨fun ⟨_, h, h'⟩ => ⟨hdepth, hincludes, h, h'⟩, fun ⟨_, _, h, h'⟩ => ⟨(), h, h'⟩⟩
  rw [hsteps, hglobs, hcontrols]
  constructor
  · rintro ⟨hdepth, hincludes, hglobs, hcontrols⟩
    exact ⟨hdepth, hincludes, hglobs, fun e he => (hcontrols e he).1,
      fun e he => (hcontrols e he).2⟩
  · rintro h
    exact ⟨h.depth, h.includes, h.globs, fun e he => ⟨h.mapped e he, h.types e he⟩⟩

/-! ## The types for control codes -/

/-- The settings map a control code, the blanks around it aside, to a glob. -/
def Maps (s : Settings) (code type : String) : Prop :=
  ∃ m, s.controls.get? (Text.trimmed code) = some m ∧ type ∈ m.types

theorem mem_typesOf {code type : String} : type ∈ s.typesOf code ↔ s.Maps code type := by
  unfold typesOf Maps
  cases s.controls.get? (Text.trimmed code) <;> simp

/-- **Mapped codes have the types that they are mapped to.** -/
theorem typesFor_eq_ok (h : ∀ c ∈ codes, ∃ m, s.controls.get? (Text.trimmed c) = some m) :
    ∃ types, s.typesFor codes = .ok types ∧ ∀ t, t ∈ types ↔ ∃ c ∈ codes, s.Maps c t := by
  have hmapped : ∀ c ∈ codes, s.HasControl c := fun c hc => Dict.mem_keys_iff.2 (h c hc)
  refine ⟨_, typesFor_eq_ok_iff.2 ⟨hmapped, rfl⟩, fun t => ?_⟩
  rw [(FirstOccurrences.nil.addNew _).mem_iff, List.nil_append, requested, List.mem_flatMap]
  simp only [mem_typesOf]

theorem Sound.exists_type (hs : s.Sound) {code : String} {m : ControlMapping}
    (h : s.controls.get? (Text.trimmed code) = some m) : ∃ t, s.Maps code t := by
  obtain ⟨t, ht⟩ := List.exists_mem_of_ne_nil _ (hs.mapped _ (Dict.mem_of_get? h))
  exact ⟨t, m, h, ht⟩

theorem Sound.wellFormed (hs : s.Sound) {code type : String} (h : s.Maps code type) :
    Glob.WellFormed (Text.trimmed type) := by
  obtain ⟨m, hm, ht⟩ := h
  exact hs.types _ (Dict.mem_of_get? hm) type ht

end Settings

end InfraEvidence
