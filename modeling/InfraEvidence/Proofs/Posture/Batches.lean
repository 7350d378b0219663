/-
  InfraEvidence — analyses of collections in parts and in other orders.

  * `Dict.perm_flatten_addTo`: one more member of a group is one more member of
    all groups together;
  * `Posture.get?_methodsOf`: the group of a method has the blocks with this
    method, in the order given; `Posture.perm_flatten_methodsOf`: all groups
    together have every encrypted block once;
  * `Posture.positions`: the places of the blocks that a test selects;
  * `Posture.analyses_batched`: the analyses of two collections one after the
    other are put together from those of the two; a collection in another order
    has the same lists in another order, and the same scores; and of each list
    of an analysis it is known which blocks it comes from.
-/
import InfraEvidence.Posture.Gap
import InfraEvidence.Posture.Score
import Mathlib.Data.List.FinRange
import Mathlib.Data.List.Induction

namespace InfraEvidence

/-! ## Groups -/

namespace Dict

variable {α : Type}

theorem perm_flatten_insertEntry (k : String) (v : α) {es : List (String × List α)}
    (h : es.Pairwise fun a b => a.1 < b.1) :
    ((insertEntry k (((es.lookup k).map (· ++ [v])).getD [v]) es).map (·.2)).flatten.Perm
      (v :: (es.map (·.2)).flatten) := by
  induction es with
  | nil => exact .refl _
  | cons e es ih =>
    obtain ⟨he, hes⟩ := List.pairwise_cons.1 h
    by_cases hbefore : k < e.1
    · -- the key is new, and comes before all others
      have hnew : (e :: es).lookup k = none := by
        refine List.lookup_eq_none_iff.2 fun f hf => ?_
        have hlt : k < f.1 := by
          rcases List.mem_cons.1 hf with rfl | hf
          · exact hbefore
          · exact String.lt_trans hbefore (he f hf)
        simpa using fun heq : k = f.1 => String.lt_irrefl k (heq ▸ hlt)
      rw [hnew, insertEntry, if_pos hbefore]
      exact .refl _
    by_cases hafter : e.1 < k
    · have hne : (k == e.1) = false := by
        simpa using fun heq : k = e.1 => String.lt_irrefl k (heq ▸ hafter)
      rw [List.lookup_cons, hne, insertEntry, if_neg hbefore, if_pos hafter, List.map_cons,
        List.flatten_cons, List.map_cons, List.flatten_cons]
      exact ((ih hes).append_left e.2).trans List.perm_middle
    · obtain rfl := key_eq hbefore hafter
      rw [List.lookup_cons, beq_self_eq_true, insertEntry, if_neg hbefore, if_neg hafter]
      simp only [Option.map_some, Option.getD_some, List.map_cons, List.flatten_cons,
        List.append_assoc]
      exact List.perm_middle

/-- **One more member of a group** is one more member of all groups together. -/
theorem perm_flatten_addTo (d : Dict (List α)) (k : String) (v : α) :
    (d.addTo k (· ++ [v]) [v]).values.flatten.Perm (v :: d.values.flatten) :=
  perm_flatten_insertEntry k v d.increasing

end Dict

namespace Posture

variable {as bs : List Block}

/-- The blocks that `m` encrypts. -/
def encryptedBy (m : String) (bs : List Block) : List Block :=
  bs.filter fun b => encryptionMethod? b = some m

theorem references_append (as bs : List Block) :
    references (as ++ bs) = references as ++ references bs := List.map_append

theorem methodsOf_append_none {b : Block} (bs : List Block) (h : encryptionMethod? b = none) :
    methodsOf (bs ++ [b]) = methodsOf bs := by
  simp [methodsOf, List.foldl_append, h]

theorem methodsOf_append_some {b : Block} {m : String} (bs : List Block)
    (h : encryptionMethod? b = some m) :
    methodsOf (bs ++ [b]) =
      (methodsOf bs).addTo m (· ++ [b.canonicalReference]) [b.canonicalReference] := by
  simp [methodsOf, List.foldl_append, h]

/-- **The group of a method** has the blocks with this method, in the order given. -/
theorem get?_methodsOf (bs : List Block) (m : String) :
    (methodsOf bs).get? m =
      if encryptedBy m bs = [] then none else some (references (encryptedBy m bs)) := by
  induction bs using List.reverseRecOn with
  | nil => rfl
  | append_singleton bs b ih =>
    rw [encryptedBy, List.filter_append, ← encryptedBy]
    cases hb : encryptionMethod? b with
    | none =>
      have hnone : [b].filter (fun b => encryptionMethod? b = some m) = [] := by simp [hb]
      rw [methodsOf_append_none bs hb, ih, hnone, List.append_nil]
    | some method =>
      rw [methodsOf_append_some bs hb, Dict.addTo, Dict.get?_insert]
      by_cases hm : m = method
      · subst hm
        rw [if_pos rfl, ih]
        split <;> simp_all [references]
      · have hnone : [b].filter (fun b => encryptionMethod? b = some m) = [] := by
          simpa [hb] using Ne.symm hm
        rw [if_neg hm, ih, hnone, List.append_nil]

/-- **All groups together** have the encrypted blocks, each one once. -/
theorem perm_flatten_methodsOf (bs : List Block) :
    (methodsOf bs).values.flatten.Perm (references (encryptedIn bs)) := by
  induction bs using List.reverseRecOn with
  | nil => exact .refl _
  | append_singleton bs b ih =>
    rw [encryptedIn, List.filter_append, ← encryptedIn, references_append]
    cases hb : encryptionMethod? b with
    | none => simpa [methodsOf_append_none bs hb, hb, references] using ih
    | some m =>
      have hlast : references ([b].filter fun b => (encryptionMethod? b).isSome) =
          [b.canonicalReference] := by simp [hb, references]
      rw [methodsOf_append_some bs hb, hlast]
      exact (Dict.perm_flatten_addTo _ _ _).trans
        ((ih.cons _).trans (List.perm_append_singleton _ _).symm)

theorem encryptedBy_sublist (m : String) (bs : List Block) :
    (encryptedBy m bs).Sublist (encryptedIn bs) := by
  refine List.monotone_filter_right bs fun b hb => ?_
  rw [of_decide_eq_true hb, Option.isSome_some]

/-! ## Places -/

/-- The places of the blocks that a test selects. -/
def positions (test : Block → Bool) (bs : List Block) : List (Fin bs.length) :=
  (List.finRange bs.length).filter fun i => test bs[i]

theorem references_filter (test : Block → Bool) (bs : List Block) :
    references (bs.filter test) =
      (positions test bs).map fun i => bs[i].canonicalReference := by
  have hplaces : (List.finRange bs.length).map bs.get = bs := List.map_get_finRange bs
  conv_lhs => rw [← hplaces, List.filter_map]
  rw [references, List.map_map]
  rfl

theorem positions_increasing (test : Block → Bool) (bs : List Block) :
    (positions test bs).Pairwise (· < ·) := (List.pairwise_lt_finRange _).filter _

theorem lacksEncryption_eq_false {b : Block} (h : (encryptionMethod? b).isSome = true) :
    lacksEncryption b = false := by
  rw [lacksEncryption, Option.isNone_eq_false_iff.2 h, Bool.false_and]

theorem disjoint_positions (bs : List Block) :
    (positions (fun b => (encryptionMethod? b).isSome) bs).Disjoint
      (positions lacksEncryption bs) := by
  intro i hencrypted hlacks
  have hsome := (List.mem_filter.1 hencrypted).2
  have hlack := (List.mem_filter.1 hlacks).2
  rw [lacksEncryption_eq_false hsome] at hlack
  contradiction

/-! ## Two collections, one after the other -/

/-- The encryption of two collections, one after the other. -/
structure EncryptionPosture.Joins (p q whole : EncryptionPosture) : Prop where
  encrypted : whole.encrypted = p.encrypted ++ q.encrypted
  unencrypted : whole.unencrypted = p.unencrypted ++ q.unencrypted
  methods : ∀ m, whole.methods.get? m = (p.methods.get? m).merge (· ++ ·) (q.methods.get? m)
  total : whole.total = p.total + q.total

/-- The access rules of two collections, one after the other. -/
structure AccessPosture.Joins (p q whole : AccessPosture) : Prop where
  roles : whole.roles = p.roles ++ q.roles
  policies : whole.policies = p.policies ++ q.policies
  permissive : whole.permissive = p.permissive ++ q.permissive
  total : whole.total = p.total + q.total

/-- The network controls of two collections, one after the other. -/
structure NetworkPosture.Joins (p q whole : NetworkPosture) : Prop where
  groups : whole.groups = p.groups ++ q.groups
  openRanges : whole.openRanges = p.openRanges ++ q.openRanges
  restricted : whole.restricted = p.restricted ++ q.restricted
  total : whole.total = p.total + q.total

theorem references_filter_append (test : Block → Bool) (as bs : List Block) :
    references ((as ++ bs).filter test) =
      references (as.filter test) ++ references (bs.filter test) := by
  rw [List.filter_append, references_append]

theorem rangeFindings_append (test : String → Bool) (as bs : List Block) :
    rangeFindings test (as ++ bs) = rangeFindings test as ++ rangeFindings test bs := by
  rw [rangeFindings, List.filter_append, List.flatMap_append]
  rfl

theorem get?_methodsOf_append (as bs : List Block) (m : String) :
    (methodsOf (as ++ bs)).get? m =
      ((methodsOf as).get? m).merge (· ++ ·) ((methodsOf bs).get? m) := by
  have hboth : encryptedBy m (as ++ bs) = encryptedBy m as ++ encryptedBy m bs :=
    List.filter_append ..
  rw [get?_methodsOf, get?_methodsOf, get?_methodsOf, hboth, references_append]
  by_cases has : encryptedBy m as = [] <;> by_cases hbs : encryptedBy m bs = [] <;>
    simp [has, hbs, references, Option.merge]

theorem accessTotal_append (as bs : List Block) :
    accessTotal (as ++ bs) = accessTotal as + accessTotal bs := by
  simp only [accessTotal, List.filter_append, List.length_append]
  omega

theorem joins_encryption (as bs : List Block) :
    (analyzeEncryption as).Joins (analyzeEncryption bs) (analyzeEncryption (as ++ bs)) where
  encrypted := references_filter_append _ as bs
  unencrypted := references_filter_append _ as bs
  methods := get?_methodsOf_append as bs
  total := List.length_append

theorem joins_access (as bs : List Block) :
    (analyzeAccess as).Joins (analyzeAccess bs) (analyzeAccess (as ++ bs)) where
  roles := references_filter_append _ as bs
  policies := references_filter_append _ as bs
  permissive := references_filter_append _ as bs
  total := accessTotal_append as bs

theorem joins_network (as bs : List Block) :
    (analyzeNetwork as).Joins (analyzeNetwork bs) (analyzeNetwork (as ++ bs)) where
  groups := references_filter_append _ as bs
  openRanges := rangeFindings_append _ as bs
  restricted := rangeFindings_append _ as bs
  total := by simp only [analyzeNetwork, List.filter_append, List.length_append]

/-- The findings in a category. -/
def findings (bs : List Block) : GapKind → List String
  | .encryption => (analyzeEncryption bs).unencrypted
  | .access => (analyzeAccess bs).permissive
  | .network => (analyzeNetwork bs).openRanges

theorem findings_append (as bs : List Block) (kind : GapKind) :
    findings (as ++ bs) kind = findings as kind ++ findings bs kind := by
  cases kind with
  | encryption => exact (joins_encryption as bs).unencrypted
  | access => exact (joins_access as bs).permissive
  | network => exact (joins_network as bs).openRanges

/-! ## One collection in two orders -/

/-- The encryption of a collection in two orders. -/
structure EncryptionPosture.Rearranged (p q : EncryptionPosture) : Prop where
  encrypted : p.encrypted.Perm q.encrypted
  unencrypted : p.unencrypted.Perm q.unencrypted
  methods : ∀ m, Option.Rel List.Perm (p.methods.get? m) (q.methods.get? m)
  total : p.total = q.total
  score : p.score = q.score

/-- The access rules of a collection in two orders. -/
structure AccessPosture.Rearranged (p q : AccessPosture) : Prop where
  roles : p.roles.Perm q.roles
  policies : p.policies.Perm q.policies
  permissive : p.permissive.Perm q.permissive
  total : p.total = q.total
  score : p.score = q.score

/-- The network controls of a collection in two orders. -/
structure NetworkPosture.Rearranged (p q : NetworkPosture) : Prop where
  groups : p.groups.Perm q.groups
  openRanges : p.openRanges.Perm q.openRanges
  restricted : p.restricted.Perm q.restricted
  total : p.total = q.total
  score : p.score = q.score

theorem perm_references (h : as.Perm bs) (test : Block → Bool) :
    (references (as.filter test)).Perm (references (bs.filter test)) := (h.filter test).map _

theorem length_filter_eq (h : as.Perm bs) (test : Block → Bool) :
    (as.filter test).length = (bs.filter test).length := (h.filter test).length_eq

theorem perm_rangeFindings (h : as.Perm bs) (test : String → Bool) :
    (rangeFindings test as).Perm (rangeFindings test bs) := (h.filter _).flatMap_right _

theorem rel_get?_methodsOf (h : as.Perm bs) (m : String) :
    Option.Rel List.Perm ((methodsOf as).get? m) ((methodsOf bs).get? m) := by
  have hblocks : (encryptedBy m as).Perm (encryptedBy m bs) := h.filter _
  rw [get?_methodsOf, get?_methodsOf]
  by_cases has : encryptedBy m as = []
  · rw [has] at hblocks
    rw [if_pos has, if_pos hblocks.nil_eq.symm]
    exact .none
  · have hbs : encryptedBy m bs ≠ [] := fun hnil => has (hnil ▸ hblocks).eq_nil
    rw [if_neg has, if_neg hbs]
    exact .some (hblocks.map _)

theorem encryptionRatio_eq (h : as.Perm bs) : encryptionRatio as = encryptionRatio bs := by
  rw [encryptionRatio, encryptedIn, length_filter_eq h, length_filter_eq h]
  rfl

theorem accessTotal_eq (h : as.Perm bs) : accessTotal as = accessTotal bs := by
  rw [accessTotal, length_filter_eq h, length_filter_eq h]
  rfl

theorem accessRatio_eq (h : as.Perm bs) : accessRatio as = accessRatio bs := by
  rw [accessRatio, accessTotal_eq h, length_filter_eq h]
  rfl

theorem networkRatio_eq (h : as.Perm bs) : networkRatio as = networkRatio bs := by
  rw [networkRatio, (perm_rangeFindings h _).length_eq, (perm_rangeFindings h _).length_eq]
  rfl

theorem rearranged_encryption (h : as.Perm bs) :
    (analyzeEncryption as).Rearranged (analyzeEncryption bs) where
  encrypted := perm_references h _
  unencrypted := perm_references h _
  methods := rel_get?_methodsOf h
  total := h.length_eq
  score := congrArg Ratio.toFloat (encryptionRatio_eq h)

theorem rearranged_access (h : as.Perm bs) : (analyzeAccess as).Rearranged (analyzeAccess bs) where
  roles := perm_references h _
  policies := perm_references h _
  permissive := perm_references h _
  total := accessTotal_eq h
  score := congrArg Ratio.toFloat (accessRatio_eq h)

theorem rearranged_network (h : as.Perm bs) :
    (analyzeNetwork as).Rearranged (analyzeNetwork bs) where
  groups := perm_references h _
  openRanges := perm_rangeFindings h _
  restricted := perm_rangeFindings h _
  total := length_filter_eq h _
  score := congrArg Ratio.toFloat (networkRatio_eq h)

/-- The scores of several analyses depend on their categories and scores only. -/
theorem complianceScore_congr {ps qs : List Analysis}
    (h : ps.map (fun a => (a.category, a.score)) = qs.map fun a => (a.category, a.score)) :
    complianceScore ps = complianceScore qs := by
  have hscores : ps.map (·.score) = qs.map (·.score) := by
    simpa [Function.comp_def] using congrArg (List.map Prod.snd) h
  rw [complianceScore, hscores, h]
  rfl

theorem complianceScore_analyzeAll (h : as.Perm bs) :
    complianceScore (analyzeAll as) = complianceScore (analyzeAll bs) := by
  refine complianceScore_congr ?_
  simp only [analyzeAll, List.map_cons, List.map_nil, Analysis.category, Analysis.score,
    (rearranged_encryption h).score, (rearranged_access h).score, (rearranged_network h).score]

/-! ## The main result -/

/-- How the encryption of a collection accounts for its blocks: by method, and
    by whether they are encrypted or should be. -/
structure EncryptionPosture.Accounts (p : EncryptionPosture) (bs : List Block) : Prop where
  /-- The group of a method is a part of the encrypted blocks, in their order -/
  methods : ∀ m refs, p.methods.get? m = some refs → refs.Sublist p.encrypted
  /-- All groups together are the encrypted blocks -/
  all : p.methods.values.flatten.Perm p.encrypted
  /-- No block is both encrypted and should be -/
  places : ∃ encrypted unencrypted : List (Fin bs.length),
    encrypted.Pairwise (· < ·) ∧ unencrypted.Pairwise (· < ·) ∧ encrypted.Disjoint unencrypted ∧
      p.encrypted = encrypted.map (fun i => bs[i].canonicalReference) ∧
      p.unencrypted = unencrypted.map fun i => bs[i].canonicalReference

theorem accounts_encryption (bs : List Block) : (analyzeEncryption bs).Accounts bs where
  methods m refs h := by
    replace h : (methodsOf bs).get? m = some refs := h
    rw [get?_methodsOf] at h
    split at h
    · contradiction
    · obtain rfl := Option.some.inj h
      exact (encryptedBy_sublist m bs).map _
  all := perm_flatten_methodsOf bs
  places := ⟨_, _, positions_increasing _ bs, positions_increasing _ bs, disjoint_positions bs,
    references_filter _ bs, references_filter _ bs⟩

/-- **Analyses do not depend on how blocks are batched and ordered.**  The lists
    and totals of two collections, one after the other, are those of the first
    followed by, or added to, those of the second; a collection in another order
    has the same lists, each in some order, and the same scores; and the encrypted
    blocks are divided among the methods, apart from those that should be
    encrypted. -/
theorem analyses_batched (as bs : List Block) :
    ((analyzeEncryption as).Joins (analyzeEncryption bs) (analyzeEncryption (as ++ bs)) ∧
      (analyzeAccess as).Joins (analyzeAccess bs) (analyzeAccess (as ++ bs)) ∧
      (analyzeNetwork as).Joins (analyzeNetwork bs) (analyzeNetwork (as ++ bs))) ∧
    (as.Perm bs →
      (analyzeEncryption as).Rearranged (analyzeEncryption bs) ∧
      (analyzeAccess as).Rearranged (analyzeAccess bs) ∧
      (analyzeNetwork as).Rearranged (analyzeNetwork bs) ∧
      complianceScore (analyzeAll as) = complianceScore (analyzeAll bs)) ∧
    (analyzeEncryption as).Accounts as :=
  ⟨⟨joins_encryption as bs, joins_access as bs, joins_network as bs⟩,
    fun h => ⟨rearranged_encryption h, rearranged_access h, rearranged_network h,
      complianceScore_analyzeAll h⟩,
    accounts_encryption as⟩

/-- A volume with a flag and a key, of which the flag comes first, and a database
    with a key. -/
def keyedBlocks : List Block :=
  [(Block.starting "main.tf" "aws_ebs_volume" "data" 1).setAll
      [("kms_key_id", "key"), ("encrypted", "TRUE")],
    (Block.starting "main.tf" "aws_rds_cluster" "main" 5).set "kms_key_id" "key"]

/-- A file system that is not encrypted. -/
def plainFiles : Block :=
  (Block.starting "main.tf" "aws_efs_file_system" "shared" 8).set "encrypted" "false"

/-- The file system is scanned after the other two, or the three are reversed. -/
theorem analyses_batched_keyed :
    let whole := analyzeEncryption (keyedBlocks ++ [plainFiles])
    (keyedBlocks ++ [plainFiles]).Perm (keyedBlocks ++ [plainFiles]).reverse ∧
      whole.encrypted = ["aws_ebs_volume.data", "aws_rds_cluster.main"] ∧
      whole.unencrypted = ["aws_efs_file_system.shared"] ∧
      whole.methods.get? "KMS" = some ["aws_rds_cluster.main"] ∧
      whole.methods.get? "Unknown" = some ["aws_ebs_volume.data"] ∧
      complianceScore (analyzeAll (keyedBlocks ++ [plainFiles])) =
        complianceScore (analyzeAll (keyedBlocks ++ [plainFiles]).reverse) := by
  have hperm : (keyedBlocks ++ [plainFiles]).Perm (keyedBlocks ++ [plainFiles]).reverse :=
    (List.reverse_perm _).symm
  obtain ⟨⟨hjoins, -, -⟩, -, -⟩ := analyses_batched keyedBlocks [plainFiles]
  obtain ⟨-, hrearranged, -⟩ := analyses_batched _ _
  refine ⟨hperm, ?_, ?_, ?_, ?_, (hrearranged hperm).2.2.2⟩
  · rw [hjoins.encrypted]
    decide +kernel
  · rw [hjoins.unencrypted]
    decide +kernel
  · rw [hjoins.methods]
    decide +kernel
  · rw [hjoins.methods]
    decide +kernel

end Posture

end InfraEvidence
