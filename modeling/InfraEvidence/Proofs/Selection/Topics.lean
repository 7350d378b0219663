/-
  InfraEvidence — keywords and what the analyses find.

  A topic is described twice: by the words in types that an analysis goes by, and
  by those that a keyword stands for in a selection.  A selection by a keyword
  must not drop what the analysis of its topic lists.

  * `Selection.Topic`: the lists of an analysis that keywords are for, with the
    test that puts a block in the list, and the keywords;
  * `Topic.findings_eq_flatMap`: a block is listed for what it is by itself;
  * `containsAny_mono`: a text with a word in it has every part of this word in it;
  * `Topic.keywordMatches_of_finds`: each keyword stands for all types that its
    topic is about;
  * `Topic.keywords_cover`: so a selection by a keyword, however it is typed, keeps
    every listed block, and the list stays as it is.
-/
import InfraEvidence.Posture.Analysis
import InfraEvidence.Proofs.Selection.Terms

namespace InfraEvidence

open Text Posture

namespace Selection

/-- A list of an analysis that keywords are for. -/
inductive Topic where
  /-- The blocks that should be encrypted -/
  | unencrypted
  | roles
  | policies
  /-- The network controls -/
  | networkControls
deriving DecidableEq

namespace Topic

/-- The block belongs to the list. -/
def finds : Topic → Block → Bool
  | unencrypted => lacksEncryption
  | roles => isRole
  | policies => isPolicy
  | networkControls => isNetworkControl

/-- The list in the analysis of a collection. -/
def findings (bs : List Block) : Topic → List String
  | unencrypted => (analyzeEncryption bs).unencrypted
  | roles => (analyzeAccess bs).roles
  | policies => (analyzeAccess bs).policies
  | networkControls => (analyzeNetwork bs).groups

/-- The keywords for the list. -/
def keywords : Topic → List String
  | unencrypted => ["encryption", "encrypt"]
  | roles | policies => ["iam", "identity", "access"]
  | networkControls => ["network", "security", "firewall"]

variable {topic : Topic} {b : Block}

/-! ## Lists of findings -/

theorem findings_eq (topic : Topic) (bs : List Block) :
    topic.findings bs = references (bs.filter topic.finds) := by
  cases topic <;> rfl

/-- **A block is listed for what it is by itself.** -/
theorem findings_eq_flatMap (topic : Topic) (bs : List Block) :
    topic.findings bs = bs.flatMap fun b => topic.findings [b] := by
  induction bs with
  | nil => cases topic <;> rfl
  | cons b bs ih =>
    rw [List.flatMap_cons, ← ih]
    simp only [findings_eq, references]
    rw [← List.singleton_append, List.filter_append, List.map_append]

theorem findings_ne_nil_iff : topic.findings [b] ≠ [] ↔ topic.finds b = true := by
  rw [findings_eq]
  cases h : topic.finds b <;> simp [h, references]

/-- Blocks that are not listed may be left out. -/
theorem findings_filter {keep : Block → Bool} (h : ∀ b, topic.finds b = true → keep b = true)
    (bs : List Block) : topic.findings (bs.filter keep) = topic.findings bs := by
  rw [findings_eq, findings_eq, List.filter_filter]
  refine congrArg references (List.filter_congr fun b _ => ?_)
  cases hb : topic.finds b with
  | false => exact Bool.false_and _
  | true => rw [h b hb, Bool.true_and]

/-! ## Keywords -/

theorem contains_trans {part word s : List Char} (h : contains part word = true)
    (hword : contains word s = true) : contains part s = true := by
  obtain ⟨before, after, rfl⟩ := contains_iff.1 h
  obtain ⟨before', after', rfl⟩ := contains_iff.1 hword
  exact contains_iff.2 ⟨before' ++ before, after ++ after', by simp⟩

/-- **Parts of words occur where the words do.** -/
theorem containsAny_mono {words parts : List String}
    (h : ∀ w ∈ words, ∃ p ∈ parts, contains p.toList w.toList = true) {s : List Char}
    (hs : containsAny words s = true) : containsAny parts s = true := by
  obtain ⟨w, hw, hoccurs⟩ := List.any_eq_true.1 hs
  obtain ⟨p, hp, hpart⟩ := h w hw
  exact List.any_eq_true.2 ⟨p, hp, contains_trans hpart hoccurs⟩

theorem keywordMatches_encryption {keyword : String} (h : keyword ∈ unencrypted.keywords)
    (hb : Control.requiresEncryption b.type = true) :
    keywordMatches b keyword.toList = true := by
  have hgroup : ["encryption".toList, "encrypt".toList].contains keyword.toList = true :=
    List.contains_iff_mem.2 (List.mem_map_of_mem h)
  rw [keywordMatches, if_pos hgroup, hb, Bool.true_or]

theorem keywordMatches_access {keyword : String} (h : keyword ∈ roles.keywords)
    (hb : containsAny accessWords (lowered b.type) = true) :
    keywordMatches b keyword.toList = true := by
  simp only [keywords, List.mem_cons, List.not_mem_nil, or_false] at h
  rcases h with rfl | rfl | rfl <;> exact hb

theorem keywordMatches_network {keyword : String} (h : keyword ∈ networkControls.keywords)
    (hb : containsAny networkWords (lowered b.type) = true) :
    keywordMatches b keyword.toList = true := by
  simp only [keywords, List.mem_cons, List.not_mem_nil, or_false] at h
  rcases h with rfl | rfl | rfl <;> exact hb

/-- **A keyword stands for every type that its topic is about.** -/
theorem keywordMatches_of_finds {keyword : String} (h : keyword ∈ topic.keywords)
    (hb : topic.finds b = true) : keywordMatches b keyword.toList = true := by
  cases topic with
  | unencrypted =>
    -- the keyword asks for the type only, encrypted or not
    have hboth : ((encryptionMethod? b).isNone && Control.requiresEncryption b.type) = true := hb
    exact keywordMatches_encryption h (Bool.and_eq_true_iff.1 hboth).2
  | roles =>
    have hword : containsAny ["iam_role"] (lowered b.type) = true :=
      List.any_eq_true.2 ⟨_, List.mem_singleton_self _, hb⟩
    exact keywordMatches_access h (containsAny_mono (by decide) hword)
  | policies =>
    have hboth : (!isRole b && contains "iam_policy".toList (lowered b.type)) = true := hb
    have hword : containsAny ["iam_policy"] (lowered b.type) = true :=
      List.any_eq_true.2 ⟨_, List.mem_singleton_self _, (Bool.and_eq_true_iff.1 hboth).2⟩
    exact keywordMatches_access h (containsAny_mono (by decide) hword)
  | networkControls =>
    have hword : containsAny controlWords (lowered b.type) = true := hb
    exact keywordMatches_network h (containsAny_mono (by decide) hword)

theorem lower_trim_keyword {keyword : String} (h : keyword ∈ topic.keywords) :
    lower (trim keyword.toList) = keyword.toList := by
  have hall : ∀ topic : Topic, ∀ keyword ∈ topic.keywords,
      lower (trim keyword.toList) = keyword.toList := by
    intro topic
    cases topic <;> decide
  exact hall topic keyword h

/-- A keyword, however it is typed, keeps the blocks of its topic. -/
theorem admits_of_finds {keyword t : String} (h : keyword ∈ topic.keywords)
    (ht : Respells keyword t) (hb : topic.finds b = true) :
    admits matchesTerm [t] b = true := by
  rw [admits_iff]
  rintro ⟨t', ht', hblank⟩
  refine ⟨t', ht', hblank, ?_⟩
  obtain rfl := List.mem_singleton.1 ht'
  rw [ht.lower_trim, lower_trim_keyword h, matchesTerm, keywordMatches_of_finds h hb, Bool.or_true]

/-- **Selections by keywords cover the findings of their topics.**  A block that
    an analysis lists, as the list of a collection has what each of its blocks is
    listed for by itself, is kept by a selection with any of the keywords for the
    list, in any case of its letters and with any blanks around it; and so the
    selection leaves the list as it is. -/
theorem keywords_cover {keyword t : String} (h : keyword ∈ topic.keywords)
    (ht : Respells keyword t) (bs : List Block) :
    topic.findings bs = bs.flatMap (fun b => topic.findings [b]) ∧
    (∀ b ∈ bs, topic.findings [b] ≠ [] → b ∈ byTerms [t] bs) ∧
    topic.findings (byTerms [t] bs) = topic.findings bs := by
  have hselect : byTerms [t] bs = bs.filter (admits matchesTerm [t]) := keep_eq_filter [t] bs
  refine ⟨topic.findings_eq_flatMap bs, fun b hb hlisted => ?_, ?_⟩
  · rw [hselect]
    exact List.mem_filter.2 ⟨hb, admits_of_finds h ht (findings_ne_nil_iff.1 hlisted)⟩
  · rw [hselect]
    exact findings_filter (fun b hb => admits_of_finds h ht hb) bs

/-- A role in capitals, a firewall, and a bucket that is not encrypted. -/
def topicBlocks : List Block :=
  [Block.starting "a.tf" "AWS_IAM_ROLE" "admin" 1, Block.starting "b.tf" "google_firewall" "web" 1,
    Block.starting "c.tf" "aws_s3_bucket" "logs" 1]

/-- The bucket is found by the word for its topic, although its type does not have
    the word in it. -/
theorem keywords_cover_bucket :
    "encryption" ∈ unencrypted.keywords ∧ Respells "encryption" " EnCryption\n" ∧
      unencrypted.findings (byTerms [" EnCryption\n"] topicBlocks) = ["aws_s3_bucket.logs"] ∧
      byTerms [" EnCryption\n"] topicBlocks = topicBlocks.drop 2 := by
  have hkeyword : "encryption" ∈ unencrypted.keywords := by decide
  have hspelled : Respells "encryption" " EnCryption\n" :=
    ⟨[' '], "EnCryption".toList, ['\n'], by decide, by decide, by decide, by decide⟩
  refine ⟨hkeyword, hspelled, ?_, by decide +kernel⟩
  rw [(keywords_cover hkeyword hspelled topicBlocks).2.2]
  decide +kernel

end Topic

end Selection

end InfraEvidence
