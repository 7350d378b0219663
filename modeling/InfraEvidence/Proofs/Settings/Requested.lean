/-
  InfraEvidence — the types that control codes ask for.

  * `FirstOccurrences`: the elements of a list, each once, in the order in which
    they occur first;
  * `Settings.requested`: the globs of some control codes, code after code, with
    all repetitions;
  * `Settings.unmapped?`: the first code without a mapping;
  * `Settings.typesAfter_eq`: the types for some codes in closed form: such a code
    is the fault, else they are what is requested, each glob once;
  * `Settings.typesFor_repeated`, `Settings.typesFor_padded`: codes that come
    again and blanks around codes make no difference;
  * `Settings.typesFor_exact`: **control codes have the union of their types.**
-/
import InfraEvidence.Proofs.Text.Trim
import InfraEvidence.Settings.Basic
import Mathlib.Data.List.Forall2
import Mathlib.Data.List.Nodup

namespace InfraEvidence

open Text

/-! ## First occurrences -/

/-- The list `firsts` has the elements of `l`, each once, in the order in which
    they occur first in `l`. -/
structure FirstOccurrences (l firsts : List String) : Prop where
  nodup : firsts.Nodup
  mem_iff : ∀ x, x ∈ firsts ↔ x ∈ l
  ordered : firsts.Pairwise fun x y => l.idxOf x < l.idxOf y

namespace FirstOccurrences

variable {l firsts : List String}

theorem nil : FirstOccurrences [] [] := ⟨.nil, fun _ => Iff.rfl, .nil⟩

theorem ordered_append (h : FirstOccurrences l firsts) (rest : List String) :
    firsts.Pairwise fun x y => (l ++ rest).idxOf x < (l ++ rest).idxOf y := by
  refine h.ordered.imp_of_mem fun {x y} hx hy hlt => ?_
  rwa [List.idxOf_append_of_mem ((h.mem_iff x).1 hx),
    List.idxOf_append_of_mem ((h.mem_iff y).1 hy)]

/-- An element that has occurred before is no first occurrence. -/
theorem append_old (h : FirstOccurrences l firsts) {x : String} (hx : x ∈ firsts) :
    FirstOccurrences (l ++ [x]) firsts := by
  refine ⟨h.nodup, fun y => ?_, h.ordered_append [x]⟩
  rw [List.mem_append, List.mem_singleton, ← h.mem_iff]
  exact ⟨Or.inl, fun hy => hy.elim id fun heq => heq ▸ hx⟩

/-- A new element comes behind all others. -/
theorem append_new (h : FirstOccurrences l firsts) {x : String} (hx : x ∉ firsts) :
    FirstOccurrences (l ++ [x]) (firsts ++ [x]) := by
  have hl : x ∉ l := fun hmem => hx ((h.mem_iff x).2 hmem)
  refine ⟨?_, fun y => ?_, ?_⟩
  · rw [← List.concat_eq_append]
    exact h.nodup.concat hx
  · rw [List.mem_append, List.mem_append, h.mem_iff]
  · refine List.pairwise_append.2 ⟨h.ordered_append [x], List.pairwise_singleton _ x, ?_⟩
    intro y hy z hz
    obtain rfl := List.mem_singleton.1 hz
    have hy : y ∈ l := (h.mem_iff y).1 hy
    calc (l ++ [z]).idxOf y = l.idxOf y := List.idxOf_append_of_mem hy
      _ < l.length := List.idxOf_lt_length_of_mem hy
      _ ≤ (l ++ [z]).idxOf z := by rw [List.idxOf_append_of_notMem hl]; exact Nat.le_add_right ..

/-- **Adding what is new** keeps the first occurrences of all that was given. -/
theorem addNew (h : FirstOccurrences l firsts) (more : List String) :
    FirstOccurrences (l ++ more) (Settings.addNew firsts more) := by
  unfold Settings.addNew
  induction more generalizing l firsts with
  | nil => rwa [List.append_nil]
  | cons x more ih =>
    rw [← List.singleton_append, ← List.append_assoc, List.singleton_append, List.foldl_cons]
    split
    · next hx => exact ih (h.append_old (by simpa using hx))
    · next hx => exact ih (h.append_new (by simpa using hx))

end FirstOccurrences

namespace Settings

variable {s : Settings} {codes : List String}

theorem addNew_append (acc new more : List String) :
    addNew acc (new ++ more) = addNew (addNew acc new) more := List.foldl_append

theorem addNew_of_subset {acc new : List String} (h : new ⊆ acc) : addNew acc new = acc := by
  induction new with
  | nil => rfl
  | cons x new ih =>
    obtain ⟨hx, hnew⟩ := List.cons_subset.1 h
    rw [addNew, List.foldl_cons, if_pos (by simpa using hx)]
    exact ih hnew

/-! ## Codes without a mapping -/

/-- The settings map a control code, the blanks around it aside. -/
def HasControl (s : Settings) (code : String) : Prop := trimmed code ∈ s.controls.keys

instance (s : Settings) (code : String) : Decidable (s.HasControl code) :=
  inferInstanceAs (Decidable (_ ∈ _))

/-- The first code without a mapping. -/
def unmapped? (s : Settings) (codes : List String) : Option String :=
  codes.find? fun c => decide (¬ s.HasControl c)

theorem unmapped?_cons (c : String) (codes : List String) :
    s.unmapped? (c :: codes) = if s.HasControl c then s.unmapped? codes else some c := by
  unfold unmapped?
  by_cases hc : s.HasControl c
  · rw [List.find?_cons_of_neg (by simpa using hc), if_pos hc]
  · rw [List.find?_cons_of_pos (by simpa using hc), if_neg hc]

theorem unmapped?_append (codes more : List String) :
    s.unmapped? (codes ++ more) = (s.unmapped? codes).or (s.unmapped? more) := List.find?_append

theorem unmapped?_eq_none_iff : s.unmapped? codes = none ↔ ∀ c ∈ codes, s.HasControl c := by
  simp [unmapped?]

theorem unmapped?_eq_some_iff {c : String} :
    s.unmapped? codes = some c ↔ ∃ before after, codes = before ++ c :: after ∧
      (∀ b ∈ before, s.HasControl b) ∧ ¬ s.HasControl c := by
  rw [unmapped?, List.find?_eq_some_iff_append]
  constructor
  · rintro ⟨hc, before, after, hcodes, hbefore⟩
    exact ⟨before, after, hcodes, by simpa using hbefore, by simpa using hc⟩
  · rintro ⟨before, after, hcodes, hbefore, hc⟩
    exact ⟨by simpa using hc, before, after, hcodes, by simpa using hbefore⟩

/-! ## The types for control codes -/

/-- The globs that a control code is mapped to. -/
def typesOf (s : Settings) (code : String) : List String :=
  ((s.controls.get? (trimmed code)).map (·.types)).getD []

/-- The globs that some control codes are mapped to, code after code. -/
def requested (s : Settings) (codes : List String) : List String := codes.flatMap s.typesOf

theorem requested_append (codes more : List String) :
    s.requested (codes ++ more) = s.requested codes ++ s.requested more := List.flatMap_append

theorem requested_cons (c : String) (codes : List String) :
    s.requested (c :: codes) = s.typesOf c ++ s.requested codes := List.flatMap_cons

theorem typesOf_subset_requested {c : String} (hc : c ∈ codes) :
    s.typesOf c ⊆ s.requested codes := fun _ ht => List.mem_flatMap.2 ⟨c, hc, ht⟩

/-- **The types for codes, in closed form.**  What has been collected before a code
    without a mapping is met does not matter. -/
theorem typesAfter_eq (acc codes : List String) :
    s.typesAfter acc codes =
      match s.unmapped? codes with
      | some c => .error (.missingSetting ("controls." ++ trimmed c))
      | none => .ok (addNew acc (s.requested codes)) := by
  induction codes generalizing acc with
  | nil => rfl
  | cons c codes ih =>
    rw [typesAfter, unmapped?_cons]
    by_cases hc : s.HasControl c
    · obtain ⟨m, hm⟩ := Dict.mem_keys_iff.1 hc
      have htypes : s.typesOf c = m.types := by rw [typesOf, hm]; rfl
      rw [hm, if_pos hc, requested_cons, htypes, addNew_append]
      exact ih (addNew acc m.types)
    · have hnone : s.controls.get? (trimmed c) = none := by
        rw [Option.eq_none_iff_forall_ne_some]
        exact fun m hm => hc (Dict.mem_keys_iff.2 ⟨m, hm⟩)
      rw [hnone, if_neg hc]

theorem typesFor_eq_ok_iff {types : List String} :
    s.typesFor codes = .ok types ↔
      (∀ c ∈ codes, s.HasControl c) ∧ types = addNew [] (s.requested codes) := by
  rw [typesFor, typesAfter_eq, ← unmapped?_eq_none_iff]
  cases s.unmapped? codes with
  | none => exact ⟨fun h => ⟨rfl, (Except.ok.inj h).symm⟩, fun h => congrArg Except.ok h.2.symm⟩
  | some c => exact ⟨nofun, nofun⟩

/-- **The first code without a mapping is the fault.** -/
theorem typesFor_eq_error_iff {fault : Fault} :
    s.typesFor codes = .error fault ↔
      ∃ before c after, codes = before ++ c :: after ∧ (∀ b ∈ before, s.HasControl b) ∧
        ¬ s.HasControl c ∧ fault = .missingSetting ("controls." ++ trimmed c) := by
  have hfirst : s.typesFor codes = .error fault ↔
      ∃ c, s.unmapped? codes = some c ∧ fault = .missingSetting ("controls." ++ trimmed c) := by
    rw [typesFor, typesAfter_eq]
    cases s.unmapped? codes with
    | none => exact ⟨nofun, nofun⟩
    | some c =>
      constructor
      · intro h
        exact ⟨c, rfl, (Except.error.inj h).symm⟩
      · rintro ⟨d, hd, rfl⟩
        rw [Option.some.inj hd]
  rw [hfirst]
  constructor
  · rintro ⟨c, hc, hfault⟩
    obtain ⟨before, after, hcodes, hbefore, hc⟩ := unmapped?_eq_some_iff.1 hc
    exact ⟨before, c, after, hcodes, hbefore, hc, hfault⟩
  · rintro ⟨before, c, after, hcodes, hbefore, hc, hfault⟩
    exact ⟨c, unmapped?_eq_some_iff.2 ⟨before, after, hcodes, hbefore, hc⟩, hfault⟩

/-! ## Codes in other words -/

/-- The globs of a code are there already when it comes again. -/
theorem addNew_requested_repeated {c : String} (hc : c ∈ codes) (more : List String) :
    addNew [] (s.requested (codes ++ c :: more)) = addNew [] (s.requested (codes ++ more)) := by
  have hold : s.typesOf c ⊆ addNew [] (s.requested codes) := fun t ht =>
    ((FirstOccurrences.nil.addNew (s.requested codes)).mem_iff t).2
      (typesOf_subset_requested hc ht)
  calc addNew [] (s.requested (codes ++ c :: more))
      = addNew (addNew (addNew [] (s.requested codes)) (s.typesOf c)) (s.requested more) := by
        rw [requested_append, requested_cons, addNew_append, addNew_append]
    _ = addNew (addNew [] (s.requested codes)) (s.requested more) := by
        rw [addNew_of_subset hold]
    _ = addNew [] (s.requested (codes ++ more)) := by
        rw [requested_append, addNew_append]

/-- **A code that comes again makes no difference.** -/
theorem typesFor_repeated {c : String} (hc : c ∈ codes) (more : List String) :
    s.typesFor (codes ++ c :: more) = s.typesFor (codes ++ more) := by
  rw [typesFor, typesFor, typesAfter_eq, typesAfter_eq, addNew_requested_repeated hc,
    unmapped?_append, unmapped?_append, unmapped?_cons]
  -- only where all codes before it have a mapping it matters whether `c` has one
  cases h : s.unmapped? codes with
  | some d => rfl
  | none => rw [if_pos (unmapped?_eq_none_iff.1 h c hc)]

/-- The code `t` is `s` with blanks around it. -/
def Padded (s t : String) : Prop :=
  ∃ before after, t.toList = before ++ s.toList ++ after ∧ allBlank before = true ∧
    allBlank after = true

theorem Padded.trimmed_eq {s t : String} (h : Padded s t) : trimmed t = trimmed s := by
  obtain ⟨before, after, ht, hbefore, hafter⟩ := h
  rw [trimmed, ht, trim_append_blanks hbefore hafter, trimmed]

/-- **Blanks around codes make no difference.** -/
theorem typesFor_padded {codes' : List String} (h : List.Forall₂ Padded codes codes') :
    s.typesFor codes' = s.typesFor codes := by
  suffices hafter : ∀ acc, s.typesAfter acc codes' = s.typesAfter acc codes from hafter []
  induction h with
  | nil => exact fun _ => rfl
  | cons hc _ ih =>
    intro acc
    simp only [typesAfter, hc.trimmed_eq, ih]

/-! ## The union -/

/-- **Control codes have the union of their types.**  If every code has a
    mapping, the globs of all codes are found, each once and in the order in which
    they are first requested; neither a code that comes again nor blanks around
    codes change that.  Else the fault names the first code without a mapping. -/
theorem typesFor_exact (s : Settings) (codes : List String) :
    ((∃ types, s.typesFor codes = .ok types) ↔ ∀ c ∈ codes, s.HasControl c) ∧
    (∀ types, s.typesFor codes = .ok types → FirstOccurrences (s.requested codes) types) ∧
    (∀ fault, s.typesFor codes = .error fault ↔
      ∃ before c after, codes = before ++ c :: after ∧ (∀ b ∈ before, s.HasControl b) ∧
        ¬ s.HasControl c ∧ fault = .missingSetting ("controls." ++ trimmed c)) ∧
    (∀ c ∈ codes, ∀ more, s.typesFor (codes ++ c :: more) = s.typesFor (codes ++ more)) ∧
    (∀ codes', List.Forall₂ Padded codes codes' → s.typesFor codes' = s.typesFor codes) := by
  refine ⟨?_, fun types h => ?_, fun _ => typesFor_eq_error_iff, fun _ hc => typesFor_repeated hc,
    fun _ => typesFor_padded⟩
  · simp only [typesFor_eq_ok_iff, exists_and_left, exists_eq, and_true]
  · obtain ⟨-, rfl⟩ := typesFor_eq_ok_iff.1 h
    exact FirstOccurrences.nil.addNew _

/-- Settings that map two codes to some of the same types. -/
def sharedSettings : Settings where
  controls := Dict.ofList [
    ("CC6.8", { types := ["aws_s3_bucket*", "aws_kms_key", "aws_s3_bucket*"] }),
    ("CC7.2", { types := ["aws_cloudtrail", "aws_kms_key"] })]

/-- The globs of both codes are found, those of the first one first, also with
    blanks around the codes and when it comes again; of two codes without a mapping
    the first one is told. -/
theorem typesFor_exact_shared :
    let codes := ["CC7.2", "CC6.8"]
    let padded := ["CC7.2\t", "\u2003CC6.8", " CC7.2"]
    let types := ["aws_cloudtrail", "aws_kms_key", "aws_s3_bucket*"]
    (∀ c ∈ codes, sharedSettings.HasControl c) ∧
      List.Forall₂ Padded (codes ++ ["CC7.2"]) padded ∧
      sharedSettings.typesFor padded = .ok types ∧
      FirstOccurrences (sharedSettings.requested codes) types ∧
      sharedSettings.requested codes = ["aws_cloudtrail", "aws_kms_key", "aws_s3_bucket*",
        "aws_kms_key", "aws_s3_bucket*"] ∧
      sharedSettings.typesFor ["CC6.8", " cc7.2 ", "CC9.9"] =
        .error (.missingSetting "controls.cc7.2") := by
  intro codes padded types
  have hmapped : ∀ c ∈ codes, sharedSettings.HasControl c := by decide +kernel
  have hpadded : List.Forall₂ Padded (codes ++ ["CC7.2"]) padded :=
    .cons ⟨[], ['\t'], by decide, by decide, by decide⟩
      (.cons ⟨['\u2003'], [], by decide, by decide, by decide⟩
        (.cons ⟨[' '], [], by decide, by decide, by decide⟩ .nil))
  have hcodes : sharedSettings.typesFor codes = .ok types :=
    typesFor_eq_ok_iff.2 ⟨hmapped, by decide +kernel⟩
  obtain ⟨-, hfirst, -, hrepeated, -⟩ := typesFor_exact sharedSettings codes
  obtain ⟨-, -, -, -, hblanks⟩ := typesFor_exact sharedSettings (codes ++ ["CC7.2"])
  obtain ⟨-, -, hfault, -, -⟩ := typesFor_exact sharedSettings ["CC6.8", " cc7.2 ", "CC9.9"]
  refine ⟨hmapped, hpadded, ?_, hfirst types hcodes, by decide +kernel, ?_⟩
  · rw [hblanks padded hpadded, hrepeated "CC7.2" (by decide) [], List.append_nil, hcodes]
  · refine (hfault _).2 ⟨["CC6.8"], " cc7.2 ", ["CC9.9"], rfl, by decide +kernel,
      by decide +kernel, ?_⟩
    exact congrArg Fault.missingSetting (by decide +kernel)

end Settings

end InfraEvidence
