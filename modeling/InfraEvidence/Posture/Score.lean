/-
  InfraEvidence — scores over several analyses, and the worth of a collection.

  * `Posture.complianceScore`: the mean of the scores, and the score of each
    category; a category that comes twice counts twice in the mean and keeps
    its last score;
  * `Posture.relevance`: how much a collection is worth as evidence, by its
    size and by the number of blocks of telling types.
-/
import InfraEvidence.Posture.Analysis

namespace InfraEvidence

namespace Posture

/-- The scores of several analyses. -/
structure ComplianceScore where
  /-- Their mean, zero without analyses -/
  overall : Float
  /-- The score of each category -/
  categories : Dict Float

/-- The mean of some scores, zero without any. -/
def mean (scores : List Float) : Float :=
  if scores.isEmpty then 0.0 else scores.foldl (· + ·) 0.0 / Float.ofNat scores.length

/-- The scores of several analyses. -/
def complianceScore (as : List Analysis) : ComplianceScore where
  overall := mean (as.map (·.score))
  categories := Dict.ofList (as.map fun a => (a.category, a.score))

/-- The types that tell most. -/
def tellingTypes : List String := [
  "aws_iam_role",
  "aws_iam_policy",
  "aws_s3_bucket",
  "aws_security_group",
  "aws_kms_key",
  "aws_cloudtrail",
  "aws_config_configuration_recorder"]

/-- What the size of a collection adds to its relevance. -/
def sizeBonus (n : Nat) : Float := if 10 ≤ n then 0.2 else if 5 ≤ n then 0.1 else 0.0

/-- What the blocks of telling types add. -/
def tellingBonus (n : Nat) : Float :=
  if 5 ≤ n then 0.3 else if 2 ≤ n then 0.2 else if n = 1 then 0.1 else 0.0

/-- The relevance of a collection as evidence. -/
def relevance (bs : List Block) : Float :=
  if bs.isEmpty then 0.0
  else
    let telling := (bs.filter fun b => tellingTypes.contains b.type).length
    let score := 0.5 + sizeBonus bs.length + tellingBonus telling
    if score < 1.0 then score else 1.0

end Posture

end InfraEvidence
