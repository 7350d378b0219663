/-
  InfraEvidence — scores and findings.

  * `Ratio.value`: a quotient of counts as a rational number;
    `Ratio.value_le_add`, `Ratio.value_le_value`: it does not fall when what
    counts grows along with the total, and not when only what counts grows or
    only the total shrinks;
  * `Posture.exactScore`: the score of a category before it is rounded, from the
    lists that are reported; `Posture.exactScore_eq`: it is the quotient that is
    rounded;
  * `Posture.scores_follow_findings`: exact scores lie between zero and one; a
    further block without a finding does not lower them, and one with findings
    only does not raise them, but for the first role or policy after a block that
    grants everything;
  * `Posture.first_role_lowers_score`: such a role.
-/
import InfraEvidence.Proofs.Posture.Batches
import Mathlib.Algebra.Order.Field.Basic
import Mathlib.Algebra.Order.Ring.Rat
import Mathlib.Tactic.Linarith

namespace InfraEvidence

/-! ## Quotients -/

namespace Ratio

/-- The quotient as a rational number, one if there is nothing to count. -/
def value (r : Ratio) : ℚ := if r.total = 0 then 1 else r.part / r.total

variable {r s : Ratio}

theorem value_of_total_eq_zero (h : r.total = 0) : r.value = 1 := if_pos h

theorem value_eq_div (h : r.total ≠ 0) : r.value = r.part / r.total := if_neg h

theorem cast_total_pos (h : r.total ≠ 0) : (0 : ℚ) < r.total := Nat.cast_pos.2 (Nat.pos_of_ne_zero h)

theorem value_nonneg (r : Ratio) : 0 ≤ r.value := by
  rw [value]
  split
  · exact zero_le_one
  · exact div_nonneg (Nat.cast_nonneg _) (Nat.cast_nonneg _)

theorem value_le_one (h : r.part ≤ r.total) : r.value ≤ 1 := by
  by_cases htotal : r.total = 0
  · exact (value_of_total_eq_zero htotal).le
  · rw [value_eq_div htotal, div_le_one₀ (cast_total_pos htotal)]
    exact_mod_cast h

theorem value_eq_one (h : r.part = r.total) : r.value = 1 := by
  by_cases htotal : r.total = 0
  · exact value_of_total_eq_zero htotal
  · rw [value_eq_div htotal, h, div_self (cast_total_pos htotal).ne']

theorem value_eq_zero (hpart : r.part = 0) (htotal : r.total ≠ 0) : r.value = 0 := by
  rw [value_eq_div htotal, hpart, Nat.cast_zero, zero_div]

/-- Quotients are compared crosswise. -/
theorem value_le_value_iff (hr : r.total ≠ 0) (hs : s.total ≠ 0) :
    r.value ≤ s.value ↔ r.part * s.total ≤ s.part * r.total := by
  rw [value_eq_div hr, value_eq_div hs, div_le_div_iff₀ (cast_total_pos hr) (cast_total_pos hs)]
  exact_mod_cast Iff.rfl

/-- More that counts, among no more in total. -/
theorem value_le_value (h : r.part ≤ r.total) (hpart : r.part ≤ s.part)
    (htotal : s.total ≤ r.total) : r.value ≤ s.value := by
  by_cases hs : s.total = 0
  · exact (value_of_total_eq_zero hs).symm ▸ value_le_one h
  · have hr : r.total ≠ 0 := by omega
    rw [value_le_value_iff hr hs]
    exact Nat.mul_le_mul hpart htotal

/-- As many more that count as there are more in total. -/
theorem value_le_add (h : r.part ≤ r.total) (k : Nat) :
    r.value ≤ (⟨r.part + k, r.total + k⟩ : Ratio).value := by
  by_cases hr : r.total = 0
  · have hone : (⟨r.part + k, r.total + k⟩ : Ratio).value = 1 :=
      value_eq_one (show r.part + k = r.total + k by omega)
    rw [hone]
    exact value_le_one h
  · have hk : r.total + k ≠ 0 := by omega
    rw [value_le_value_iff hr hk]
    have hgrow : r.part * k ≤ r.total * k := Nat.mul_le_mul_right k h
    simp only [Nat.mul_add, Nat.add_mul]
    rw [Nat.mul_comm k r.total]
    omega

/-- The quotient of what counts among this and what does not. -/
def share (good bad : Nat) : Ratio := ⟨good, good + bad⟩

theorem value_share_le_more_good (good bad k : Nat) :
    (share good bad).value ≤ (share (good + k) bad).value := by
  have hmore : share (good + k) bad = ⟨good + k, good + bad + k⟩ := by
    rw [share, Nat.add_right_comm]
  rw [hmore]
  exact value_le_add (r := share good bad) (Nat.le_add_right good bad) k

theorem value_share_more_bad_le (good bad k : Nat) :
    (share good (bad + k)).value ≤ (share good bad).value :=
  value_le_value (Nat.le_add_right good (bad + k)) le_rfl
    (Nat.add_le_add_left (Nat.le_add_right bad k) good)

end Ratio

namespace Posture

/-! ## Exact scores -/

/-- The score of a category before it is rounded. -/
def exactScore (bs : List Block) : GapKind → ℚ
  | .encryption =>
    let a := analyzeEncryption bs
    (Ratio.share a.encrypted.length a.unencrypted.length).value
  | .access =>
    let a := analyzeAccess bs
    if a.total = 0 then 1 else max 0 (min 1 ((a.total - a.permissive.length) / a.total))
  | .network =>
    let a := analyzeNetwork bs
    (Ratio.share a.restricted.length a.openRanges.length).value

/-- The mean of the scores before they are rounded. -/
def exactMean (bs : List Block) : ℚ :=
  (exactScore bs .encryption + exactScore bs .access + exactScore bs .network) / 3

/-- The quotient that is rounded to the score of a category. -/
def ratioOf (bs : List Block) : GapKind → Ratio
  | .encryption => encryptionRatio bs
  | .access => accessRatio bs
  | .network => networkRatio bs

theorem clamped_quotient (total taken : Nat) :
    (if total = 0 then 1 else max 0 (min 1 (((total : ℚ) - taken) / total))) =
      (⟨total - taken, total⟩ : Ratio).value := by
  by_cases htotal : total = 0
  · rw [if_pos htotal, Ratio.value_of_total_eq_zero htotal]
  have hpos : (0 : ℚ) < total := Nat.cast_pos.2 (Nat.pos_of_ne_zero htotal)
  rw [if_neg htotal, Ratio.value_eq_div htotal]
  rcases Nat.le_total taken total with hle | hle
  · have hcast : ((total - taken : Nat) : ℚ) = total - taken := Nat.cast_sub hle
    have hone : ((total : ℚ) - taken) / total ≤ 1 := by
      rw [div_le_one₀ hpos]
      exact sub_le_self _ (Nat.cast_nonneg _)
    have hzero : 0 ≤ ((total : ℚ) - taken) / total :=
      div_nonneg (sub_nonneg.2 (Nat.cast_le.2 hle)) hpos.le
    rw [min_eq_right hone, max_eq_right hzero, hcast]
  · -- more is taken away than there is
    have hneg : ((total : ℚ) - taken) / total ≤ 0 :=
      div_nonpos_of_nonpos_of_nonneg (sub_nonpos.2 (Nat.cast_le.2 hle)) hpos.le
    have hpart : total - taken = 0 := Nat.sub_eq_zero_of_le hle
    rw [min_eq_right (hneg.trans zero_le_one), max_eq_left hneg, hpart, Nat.cast_zero, zero_div]

/-- **The exact score is the quotient** that is rounded to the score. -/
theorem exactScore_eq (bs : List Block) (kind : GapKind) :
    exactScore bs kind = (ratioOf bs kind).value := by
  cases kind with
  | encryption =>
    have hgood : (analyzeEncryption bs).encrypted.length = (encryptedIn bs).length :=
      List.length_map ..
    have hbad : (analyzeEncryption bs).unencrypted.length = (bs.filter lacksEncryption).length :=
      List.length_map ..
    rw [exactScore, hgood, hbad]
    rfl
  | access =>
    have hlength : (analyzeAccess bs).permissive.length = (bs.filter isPermissive).length :=
      List.length_map ..
    rw [exactScore, hlength]
    exact clamped_quotient _ _
  | network =>
    rw [exactScore, Ratio.share, Nat.add_comm]
    rfl

theorem part_le_total (bs : List Block) (kind : GapKind) :
    (ratioOf bs kind).part ≤ (ratioOf bs kind).total := by
  cases kind with
  | encryption => exact Nat.le_add_right _ _
  | access => exact Nat.sub_le _ _
  | network => exact Nat.le_add_left _ _

theorem exactScore_nonneg (bs : List Block) (kind : GapKind) : 0 ≤ exactScore bs kind :=
  exactScore_eq bs kind ▸ Ratio.value_nonneg _

theorem exactScore_le_one (bs : List Block) (kind : GapKind) : exactScore bs kind ≤ 1 :=
  exactScore_eq bs kind ▸ Ratio.value_le_one (part_le_total bs kind)

theorem exactMean_nonneg (bs : List Block) : 0 ≤ exactMean bs := by
  have h := exactScore_nonneg bs
  exact div_nonneg (add_nonneg (add_nonneg (h _) (h _)) (h _)) (by norm_num)

theorem exactMean_le_one (bs : List Block) : exactMean bs ≤ 1 := by
  have h := exactScore_le_one bs
  rw [exactMean, div_le_one₀ (by norm_num)]
  linarith only [h .encryption, h .access, h .network]

/-! ## A further block -/

variable {bs : List Block} {b : Block}

theorem findings_append_eq_iff {kind : GapKind} :
    findings (bs ++ [b]) kind = findings bs kind ↔ findings [b] kind = [] := by
  rw [findings_append]
  exact List.append_right_eq_self

/-- The findings of a further block stand after the earlier ones. -/
theorem length_findings_append (bs : List Block) (b : Block) (kind : GapKind) :
    (findings (bs ++ [b]) kind).length = (findings bs kind).length + (findings [b] kind).length := by
  rw [findings_append, List.length_append]

/-! ### Encryption and network -/

/-- What counts in favour of a collection, next to its findings. -/
def favours (bs : List Block) : GapKind → List String
  | .encryption => (analyzeEncryption bs).encrypted
  | .access => []
  | .network => (analyzeNetwork bs).restricted

theorem favours_append (as bs : List Block) (kind : GapKind) :
    favours (as ++ bs) kind = favours as kind ++ favours bs kind := by
  cases kind with
  | encryption => exact (joins_encryption as bs).encrypted
  | access => rfl
  | network => exact (joins_network as bs).restricted

theorem exactScore_eq_share {kind : GapKind} (h : kind ≠ .access) (bs : List Block) :
    exactScore bs kind =
      (Ratio.share (favours bs kind).length (findings bs kind).length).value := by
  cases kind with
  | encryption => rfl
  | access => contradiction
  | network => rfl

/-- A block that should be encrypted is not. -/
theorem favours_of_findings (h : findings [b] .encryption ≠ []) : favours [b] .encryption = [] := by
  cases hsome : (encryptionMethod? b).isSome with
  | false => simp [favours, analyzeEncryption, encryptedIn, hsome, references]
  | true =>
    refine absurd ?_ h
    simp [findings, analyzeEncryption, lacksEncryption_eq_false hsome, references]

/-! ### Access -/

theorem accessTotal_singleton_le_one (b : Block) : accessTotal [b] ≤ 1 := by
  unfold accessTotal
  cases hrole : isRole b <;> cases hpolicy : isPolicy b <;> simp_all [isPolicy]

theorem exactScore_access (bs : List Block) :
    exactScore bs .access =
      (⟨accessTotal bs - (findings bs .access).length, accessTotal bs⟩ : Ratio).value :=
  clamped_quotient _ _

/-- The block is the first role or policy of a collection in which a block grants
    everything. -/
def FirstControl (bs : List Block) (b : Block) : Prop :=
  (analyzeAccess bs).total = 0 ∧ (analyzeAccess bs).permissive ≠ [] ∧
    (analyzeAccess [b]).total ≠ 0

instance (bs : List Block) (b : Block) : Decidable (FirstControl bs b) :=
  inferInstanceAs (Decidable (_ ∧ _ ∧ _))

/-- The first role or policy makes the most of earlier findings. -/
theorem exactScore_of_firstControl (h : FirstControl bs b) :
    exactScore bs .access = 1 ∧ exactScore (bs ++ [b]) .access = 0 := by
  obtain ⟨hnone, hfound, hcontrol⟩ := h
  replace hnone : accessTotal bs = 0 := hnone
  replace hcontrol : accessTotal [b] ≠ 0 := hcontrol
  have hlength : (findings bs .access).length ≠ 0 := fun h => hfound (List.length_eq_zero_iff.1 h)
  have hone := accessTotal_singleton_le_one b
  rw [exactScore_access, exactScore_access, accessTotal_append, length_findings_append]
  refine ⟨Ratio.value_of_total_eq_zero hnone, Ratio.value_eq_zero ?_ ?_⟩
  · show accessTotal bs + accessTotal [b] - _ = 0
    omega
  · show accessTotal bs + accessTotal [b] ≠ 0
    omega

theorem exactScore_access_le (h : findings [b] .access = []) (hfirst : ¬ FirstControl bs b) :
    exactScore bs .access ≤ exactScore (bs ++ [b]) .access := by
  rw [exactScore_access, exactScore_access, accessTotal_append, length_findings_append, h,
    List.length_nil, Nat.add_zero]
  by_cases hfew : (findings bs .access).length ≤ accessTotal bs
  · have hgrow := Ratio.value_le_add
      (r := ⟨accessTotal bs - (findings bs .access).length, accessTotal bs⟩) (Nat.sub_le _ _)
      (accessTotal [b])
    rwa [← Nat.sub_add_comm hfew] at hgrow
  by_cases hnone : accessTotal bs = 0
  · -- there are findings, so that the block is neither role nor policy
    have hfound : findings bs .access ≠ [] := fun hnil => hfew (by simp [hnil])
    have hsame : accessTotal [b] = 0 := by
      by_contra hcontrol
      exact hfirst ⟨hnone, hfound, hcontrol⟩
    rw [hsame, Nat.add_zero]
  · have hzero := Ratio.value_eq_zero
      (r := ⟨accessTotal bs - (findings bs .access).length, accessTotal bs⟩)
      (Nat.sub_eq_zero_of_le (by omega)) hnone
    exact hzero ▸ Ratio.value_nonneg _

theorem exactScore_access_append_le (h : findings [b] .access ≠ []) :
    exactScore (bs ++ [b]) .access ≤ exactScore bs .access := by
  have hlength : (findings [b] .access).length ≠ 0 := fun hnil => h (List.length_eq_zero_iff.1 hnil)
  have hone := accessTotal_singleton_le_one b
  rw [exactScore_access, exactScore_access, accessTotal_append, length_findings_append]
  refine Ratio.value_le_value (Nat.sub_le _ _) ?_ (Nat.le_add_right _ _)
  show accessTotal bs + accessTotal [b] - _ ≤ accessTotal bs - _
  omega

/-! ## The main result -/

/-- **Without a finding** the score does not fall. -/
theorem exactScore_le_append {kind : GapKind} (h : findings [b] kind = [])
    (hfirst : ¬ (kind = .access ∧ FirstControl bs b)) :
    exactScore bs kind ≤ exactScore (bs ++ [b]) kind := by
  by_cases hkind : kind = .access
  · subst hkind
    exact exactScore_access_le h fun hb => hfirst ⟨rfl, hb⟩
  · rw [exactScore_eq_share hkind, exactScore_eq_share hkind, favours_append,
      findings_append, h, List.append_nil, List.length_append]
    exact Ratio.value_share_le_more_good _ _ _

/-- **With a finding**, and nothing in favour, the score does not rise. -/
theorem exactScore_append_le {kind : GapKind} (h : findings [b] kind ≠ [])
    (hfavours : kind = .network → (analyzeNetwork [b]).restricted = []) :
    exactScore (bs ++ [b]) kind ≤ exactScore bs kind := by
  by_cases hkind : kind = .access
  · subst hkind
    exact exactScore_access_append_le h
  · have hnone : favours [b] kind = [] := by
      cases kind with
      | encryption => exact favours_of_findings h
      | access => rfl
      | network => exact hfavours rfl
    rw [exactScore_eq_share hkind, exactScore_eq_share hkind, favours_append, hnone,
      List.append_nil, length_findings_append]
    exact Ratio.value_share_more_bad_le _ _ _

/-- **Scores follow findings.**  The scores are roundings of exact ones, which lie
    between zero and one, as their mean does.  A further block without a finding
    in a category does not lower its exact score, unless it is the first role or
    policy of a collection in which a block grants everything: then that of access
    falls from one to zero.  A further block with a finding, and without a
    restricted range in the case of the network, does not raise it. -/
theorem scores_follow_findings (bs : List Block) (b : Block) :
    ((analyzeAll bs).map (·.score) =
        [ratioOf bs .encryption, ratioOf bs .access, ratioOf bs .network].map Ratio.toFloat ∧
      (∀ kind, exactScore bs kind = (ratioOf bs kind).value ∧
        0 ≤ exactScore bs kind ∧ exactScore bs kind ≤ 1) ∧
      0 ≤ exactMean bs ∧ exactMean bs ≤ 1) ∧
    (∀ kind, findings (bs ++ [b]) kind = findings bs kind →
      ¬ (kind = .access ∧ FirstControl bs b) →
      exactScore bs kind ≤ exactScore (bs ++ [b]) kind) ∧
    (FirstControl bs b → exactScore bs .access = 1 ∧ exactScore (bs ++ [b]) .access = 0) ∧
    ∀ kind, findings (bs ++ [b]) kind ≠ findings bs kind →
      (kind = .network → (analyzeNetwork [b]).restricted = []) →
      exactScore (bs ++ [b]) kind ≤ exactScore bs kind := by
  refine ⟨⟨rfl, fun kind => ?_, exactMean_nonneg bs, exactMean_le_one bs⟩, fun kind h hfirst => ?_,
    exactScore_of_firstControl, fun kind h hfavours => ?_⟩
  · exact ⟨exactScore_eq bs kind, exactScore_nonneg bs kind, exactScore_le_one bs kind⟩
  · exact exactScore_le_append (findings_append_eq_iff.1 h) hfirst
  · exact exactScore_append_le (mt findings_append_eq_iff.2 h) hfavours

/-- A group that is open to everyone. -/
def openGroup : Block :=
  (Block.starting "main.tf" "aws_security_group" "web" 1).set "cidr_blocks" "0.0.0.0/0"

/-- A policy of no role, for every action. -/
def topicPolicy : Block :=
  (Block.starting "main.tf" "aws_sns_topic_policy" "alerts" 5).set "action" "*"

/-- A role without rules. -/
def plainRole : Block := Block.starting "main.tf" "aws_iam_role" "reader" 9

/-- After a role, a group lowers the score of the network and not that of access. -/
theorem scores_follow_findings_group :
    findings ([plainRole] ++ [openGroup]) .access = findings [plainRole] .access ∧
      ¬ FirstControl [plainRole] openGroup ∧
      findings ([plainRole] ++ [openGroup]) .network ≠ findings [plainRole] .network ∧
      (analyzeNetwork [openGroup]).restricted = [] ∧
      exactScore [plainRole] .access ≤ exactScore ([plainRole] ++ [openGroup]) .access ∧
      exactScore ([plainRole] ++ [openGroup]) .network ≤ exactScore [plainRole] .network := by
  have haccess : findings ([plainRole] ++ [openGroup]) .access = findings [plainRole] .access := by
    decide
  have hnetwork : findings ([plainRole] ++ [openGroup]) .network ≠ findings [plainRole] .network := by
    decide
  have hcontrol : ¬ FirstControl [plainRole] openGroup := fun h => absurd h.1 (by decide)
  have hrestricted : (analyzeNetwork [openGroup]).restricted = [] := by decide
  obtain ⟨-, hwithout, -, hwith⟩ := scores_follow_findings [plainRole] openGroup
  exact ⟨haccess, hcontrol, hnetwork, hrestricted, hwithout .access haccess fun h => hcontrol h.2,
    hwith .network hnetwork fun _ => hrestricted⟩

/-- **The first role lowers the score of access**, though it is no finding: until
    then there was nothing to judge, whatever the policies of other types grant. -/
theorem first_role_lowers_score :
    findings ([topicPolicy] ++ [plainRole]) .access = findings [topicPolicy] .access ∧
      exactScore [topicPolicy] .access = 1 ∧
      exactScore ([topicPolicy] ++ [plainRole]) .access = 0 ∧
      ¬ exactScore [topicPolicy] .access ≤ exactScore ([topicPolicy] ++ [plainRole]) .access := by
  have hfirst : FirstControl [topicPolicy] plainRole := by decide
  obtain ⟨hbefore, hafter⟩ := exactScore_of_firstControl hfirst
  refine ⟨by decide, hbefore, hafter, ?_⟩
  rw [hbefore, hafter]
  exact not_le.2 zero_lt_one

end Posture

end InfraEvidence
