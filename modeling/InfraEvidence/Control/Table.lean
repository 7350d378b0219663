/-
  InfraEvidence — the control codes of resource types.

  * `Control.known`: the types that are listed with their codes;
  * `Control.hints`: the words in other types that tell their codes;
  * `Control.codesOf`: the codes that a type may evidence: those of its entry,
    else those of all the words in it, in any case;
  * `Control.requiresEncryption`: the types that hold data and are expected to
    be encrypted.
-/
import InfraEvidence.Order.NameSet
import InfraEvidence.Text.Lowercase
import InfraEvidence.Text.Search

namespace InfraEvidence

namespace Text

/-- The lower case of a string. -/
def lowered (s : String) : List Char := lower s.toList

/-- One of the words occurs in the text. -/
def containsAny (words : List String) (s : List Char) : Bool :=
  words.any fun w => contains w.toList s

end Text

namespace Control

open Text

/-- Identity and access. -/
def identityCodes : List String := ["CC6.1", "CC6.3"]

/-- Users and their credentials. -/
def credentialCodes : List String := ["CC6.1", "CC6.2"]

/-- Network boundaries. -/
def networkCodes : List String := ["CC6.6", "CC7.1"]

/-- Encryption and the protection of data. -/
def encryptionCodes : List String := ["CC6.8"]

/-- Logging and monitoring. -/
def loggingCodes : List String := ["CC7.2"]

/-- The operation of the system. -/
def operationsCodes : List String := ["SO2"]

/-- The resource types whose codes are listed. -/
def known : List (String × List String) := [
  ("aws_iam_role", identityCodes),
  ("aws_iam_policy", identityCodes),
  ("aws_iam_user", credentialCodes),
  ("aws_iam_group", identityCodes),
  ("aws_iam_access_key", credentialCodes),
  ("aws_iam_role_policy_attachment", identityCodes),
  ("aws_vpc", networkCodes),
  ("aws_security_group", networkCodes),
  ("aws_nacl", networkCodes),
  ("aws_subnet", networkCodes),
  ("aws_route_table", networkCodes),
  ("aws_internet_gateway", networkCodes),
  ("aws_nat_gateway", networkCodes),
  ("aws_kms_key", encryptionCodes),
  ("aws_kms_alias", encryptionCodes),
  ("aws_s3_bucket", ["CC6.8", "CC7.2"]),
  ("aws_s3_bucket_policy", ["CC6.8", "CC6.3"]),
  ("aws_s3_bucket_encryption", encryptionCodes),
  ("aws_s3_bucket_public_access_block", ["CC6.8", "CC6.3"]),
  ("aws_ebs_encryption_by_default", encryptionCodes),
  ("aws_rds_cluster", ["CC6.8", "CC7.2"]),
  ("aws_cloudtrail", ["CC7.2", "CC7.4"]),
  ("aws_cloudwatch_log_group", loggingCodes),
  ("aws_config_configuration_recorder", ["CC7.2", "CC8.1"]),
  ("aws_guardduty_detector", ["CC7.3", "CC7.4"]),
  ("aws_autoscaling_group", operationsCodes),
  ("aws_autoscaling_policy", operationsCodes),
  ("aws_appautoscaling_target", operationsCodes),
  ("aws_appautoscaling_policy", operationsCodes),
  ("aws_appautoscaling_scheduled_action", operationsCodes)]

/-- Words in a type, and the codes that they tell. -/
def hints : List (List String × List String) := [
  (["iam", "auth", "access"], identityCodes),
  (["network", "firewall", "security_group"], networkCodes),
  (["encrypt", "kms", "key"], encryptionCodes),
  (["log", "monitor", "audit"], loggingCodes),
  (["autoscal", "scaling", "scale_set"], operationsCodes)]

/-- The codes that the words in a type tell, all of them together. -/
def hintedCodes (type : String) : List String :=
  (hints.filter fun h => containsAny h.1 (lowered type)).flatMap (·.2)

/-- The codes that a resource type may evidence. -/
def codesOf (type : String) : NameSet :=
  NameSet.ofList ((known.lookup type).getD (hintedCodes type))

/-- The types of storage, databases and volumes that are expected to be
    encrypted. -/
def encryptedTypes : List String := [
  "aws_s3_bucket",
  "aws_rds_cluster",
  "aws_rds_instance",
  "aws_ebs_volume",
  "aws_efs_file_system",
  "aws_redshift_cluster",
  "azurerm_storage_account",
  "azurerm_sql_database",
  "google_storage_bucket",
  "google_sql_database_instance"]

/-- The type is expected to be encrypted. -/
def requiresEncryption (type : String) : Bool := encryptedTypes.contains type

end Control

end InfraEvidence
