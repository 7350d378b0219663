/-
  InfraEvidence — what the analyses report of a block.

  * `AdmitsEveryone`, `isOpenRange_iff`: a value has an open address range in
    it, which may be looked for in its lower case or as it is written;
  * `rangeFindings_singleton`: a network control is reported once for each of
    its ranges that a test selects, any other block never;
  * `mem_openRanges_iff`, `mem_permissive_iff`: a collection reports what its
    blocks report one by one;
  * `reported_of_gap`: so a gap of the network or of access is one of a block
    that is reported.
-/
import InfraEvidence.Posture.Gap
import InfraEvidence.Proofs.Text.Lowered

namespace InfraEvidence

open Text

namespace Posture

/-! ## Ranges -/

/-- The value has an address range in it that admits everyone. -/
def AdmitsEveryone (value : String) : Prop :=
  ∃ range ∈ openRanges, contains range.toList value.toList = true

instance (value : String) : Decidable (AdmitsEveryone value) :=
  inferInstanceAs (Decidable (∃ range ∈ openRanges, _))

theorem contains_lowered_range {range : String} (h : range ∈ openRanges) (value : String) :
    contains range.toList (lowered value) = contains range.toList value.toList := by
  refine contains_lower (fun c hc => ?_) value.toList
  simp only [openRanges, List.mem_cons, List.not_mem_nil, or_false] at h
  rcases h with rfl | rfl
  · exact List.all_eq_true.1 (show "0.0.0.0/0".toList.all isCaseless = true by decide) c hc
  · exact List.all_eq_true.1 (show "::/0".toList.all isCaseless = true by decide) c hc

theorem isOpenRange_iff {value : String} : isOpenRange value = true ↔ AdmitsEveryone value := by
  unfold isOpenRange containsAny AdmitsEveryone
  rw [List.any_eq_true]
  constructor
  · rintro ⟨range, hrange, h⟩
    exact ⟨range, hrange, contains_lowered_range hrange value ▸ h⟩
  · rintro ⟨range, hrange, h⟩
    exact ⟨range, hrange, (contains_lowered_range hrange value).symm ▸ h⟩

/-- **A network control is reported once for each of its ranges** that the test
    selects. -/
theorem rangeFindings_singleton (test : String → Bool) (b : Block) :
    rangeFindings test [b] =
      if isNetworkControl b then
        List.replicate (b.assignments.countP fun p => isRangeKey p.1 && test p.2)
          b.canonicalReference
      else [] := by
  unfold rangeFindings
  by_cases hb : isNetworkControl b = true
  · rw [List.filter_cons_of_pos hb, List.filter_nil, List.flatMap_singleton, List.map_const',
      if_pos hb, ranges, List.filter_map, List.length_map, List.filter_filter,
      List.countP_eq_length_filter]
    simp only [Function.comp_def, Bool.and_comm]
  · rw [List.filter_cons_of_neg hb, if_neg hb]
    rfl

/-! ## Collections -/

theorem mem_ranges {b : Block} {value : String} :
    value ∈ ranges b ↔ ∃ key, (key, value) ∈ b.assignments ∧ isRangeKey key = true := by
  simp only [ranges, List.mem_map, List.mem_filter]
  constructor
  · rintro ⟨⟨key, v⟩, ⟨hp, hkey⟩, rfl⟩
    exact ⟨key, hp, hkey⟩
  · rintro ⟨key, hp, hkey⟩
    exact ⟨(key, value), ⟨hp, hkey⟩, rfl⟩

theorem mem_openRanges_iff {bs : List Block} {ref : String} :
    ref ∈ (analyzeNetwork bs).openRanges ↔
      ∃ b ∈ bs, b.canonicalReference = ref ∧ isNetworkControl b = true ∧
        ∃ value ∈ ranges b, AdmitsEveryone value := by
  simp only [analyzeNetwork, rangeFindings, List.mem_flatMap, List.mem_map, List.mem_filter,
    isOpenRange_iff]
  constructor
  · rintro ⟨b, ⟨hb, hcontrol⟩, value, hvalue, href⟩
    exact ⟨b, hb, href, hcontrol, value, hvalue⟩
  · rintro ⟨b, hb, href, hcontrol, value, hvalue⟩
    exact ⟨b, ⟨hb, hcontrol⟩, value, hvalue, href⟩

theorem mem_permissive_iff {bs : List Block} {ref : String} :
    ref ∈ (analyzeAccess bs).permissive ↔
      ∃ b ∈ bs, b.canonicalReference = ref ∧ isPermissive b = true := by
  simp only [analyzeAccess, references, List.mem_map, List.mem_filter]
  constructor
  · rintro ⟨b, ⟨hb, hpermissive⟩, href⟩
    exact ⟨b, hb, href, hpermissive⟩
  · rintro ⟨b, hb, href, hpermissive⟩
    exact ⟨b, ⟨hb, hpermissive⟩, href⟩

/-- An analysis of the network or of access reports the block by itself. -/
def Reported (b : Block) : Prop :=
  b.canonicalReference ∈ (analyzeNetwork [b]).openRanges ∨
    b.canonicalReference ∈ (analyzeAccess [b]).permissive

theorem mem_gapsOf {required : Bool} {kind : GapKind} {resources : List String} {g : Gap}
    (h : g ∈ gapsOf required kind resources) : g.kind = kind ∧ g.resource ∈ resources := by
  unfold gapsOf at h
  split at h
  · obtain ⟨resource, hresource, rfl⟩ := List.mem_map.1 h
    exact ⟨rfl, hresource⟩
  · contradiction

/-- **Behind a gap of the network or of access stands a block** that is reported. -/
theorem reported_of_gap {bs : List Block} {required : Requirements} {g : Gap}
    (hg : g ∈ securityGaps bs required) (hkind : g.kind ≠ .encryption) :
    ∃ b ∈ bs, b.canonicalReference = g.resource ∧ Reported b := by
  unfold securityGaps gaps at hg
  rcases List.mem_append.1 hg with hg | hg
  · rcases List.mem_append.1 hg with hg | hg
    · exact absurd (mem_gapsOf hg).1 hkind
    · obtain ⟨b, hb, href, hpermissive⟩ := mem_permissive_iff.1 (mem_gapsOf hg).2
      refine ⟨b, hb, href, Or.inr (mem_permissive_iff.2 ?_)⟩
      exact ⟨b, List.mem_singleton_self b, rfl, hpermissive⟩
  · obtain ⟨b, hb, href, hrange⟩ := mem_openRanges_iff.1 (mem_gapsOf hg).2
    refine ⟨b, hb, href, Or.inl (mem_openRanges_iff.2 ?_)⟩
    exact ⟨b, List.mem_singleton_self b, rfl, hrange⟩

end Posture

end InfraEvidence
