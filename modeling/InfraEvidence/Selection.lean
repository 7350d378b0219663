/-
  InfraEvidence — selecting blocks.

  * `Selection.terms`: the terms of a request: trimmed, in lower case, the
    blank ones dropped.  A request without terms keeps every block;
  * `Selection.byTerms`: free terms (`matchesTerm`): a control code, a part of
    the type, the name, a key or a value, or a keyword for a group of types;
  * `Selection.byCodes`: exact control codes;
  * `Selection.byControls`: parts of control codes, or the name of a group;
  * `Selection.isCompliant`, `hasIssues`: relevance to a compliance standard,
    and risky names or settings.
-/
import InfraEvidence.Block.Basic
import InfraEvidence.Control.AllowList
import InfraEvidence.Control.Table

namespace InfraEvidence

open Text

namespace Selection

/-! ## Terms -/

/-- The terms of a request. -/
def terms (texts : List String) : List (List Char) :=
  (texts.map fun t => lower (trim t.toList)).filter (!·.isEmpty)

/-- The blocks that one of the terms keeps; all of them without terms. -/
def keep (test : Block → List Char → Bool) (texts : List String) (bs : List Block) : List Block :=
  if (terms texts).isEmpty then bs else bs.filter fun b => (terms texts).any (test b)

/-- The words in types that a keyword stands for. -/
def accessWords : List String := ["iam", "role", "policy"]

/-- The words in types that the keywords for networks stand for. -/
def networkWords : List String := ["security_group", "firewall", "nacl", "network"]

/-- The term is a keyword, and stands for the type of the block. -/
def keywordMatches (b : Block) (term : List Char) : Bool :=
  if ["encryption".toList, "encrypt".toList].contains term then
    Control.requiresEncryption b.type || containsAny ["kms", "encrypt"] (lowered b.type)
  else if ["iam".toList, "identity".toList, "access".toList].contains term then
    containsAny accessWords (lowered b.type)
  else if ["network".toList, "security".toList, "firewall".toList].contains term then
    containsAny networkWords (lowered b.type)
  else false

/-- The term is one of the control codes of the block. -/
def codeMatches (b : Block) (term : List Char) : Bool :=
  b.controls.toList.any fun code => lowered code == term

/-- The term occurs in the type, in the name, or in a setting. -/
def textMatches (b : Block) (term : List Char) : Bool :=
  contains term (lowered b.type) || contains term (lowered b.name) ||
    b.settings.entries.any fun e => contains term (lowered e.1) || contains term (lowered e.2)

/-- The term matches the block. -/
def matchesTerm (b : Block) (term : List Char) : Bool :=
  codeMatches b term || textMatches b term || keywordMatches b term

/-- The blocks that match one of the terms. -/
def byTerms (texts : List String) (bs : List Block) : List Block := keep matchesTerm texts bs

/-- The blocks with one of the control codes. -/
def byCodes (codes : List String) (bs : List Block) : List Block := keep codeMatches codes bs

/-! ## Groups of controls -/

/-- Names for groups of controls, and the words in types that belong to them. -/
def groups : List (String × List String) := [
  ("encryption", ["encrypt", "kms", "s3"]),
  ("access_control", ["iam", "security_group"]),
  ("logging", ["cloudtrail", "log"])]

/-- The term is a part of a control code of the block, or names a group that
    its type belongs to. -/
def matchesControl (b : Block) (term : List Char) : Bool :=
  b.controls.toList.any (fun code => contains term (lowered code)) ||
    (groups.find? fun g => g.1.toList == term).any fun g => containsAny g.2 (lowered b.type)

/-- The blocks that belong to one of the controls. -/
def byControls (texts : List String) (bs : List Block) : List Block :=
  keep matchesControl texts bs

/-! ## Compliance and issues -/

/-- The words in types that a compliance standard is about, if it is known. -/
def standardWords? (standard : String) : Option (List String) :=
  match String.ofList (lower (trim standard.toList)) with
  | "soc2" => some ["encrypt", "iam", "security_group", "cloudtrail", "backup"]
  | "pci" => some ["encrypt", "security_group", "waf", "lb"]
  | _ => none

/-- The block is relevant to a compliance standard; to an unknown one every
    block is. -/
def isCompliant (standard : String) (b : Block) : Bool :=
  match standardWords? standard with
  | some words => containsAny words (lowered b.type)
  | none => true

/-- The words in types and names that point to an issue. -/
def riskyWords : List String := ["insecure", "public", "open", "permissive", "wildcard"]

/-- The assignment points to an issue: an open address range, a wildcard
    action or resource, or something made public. -/
def isRisky (key value : String) : Bool :=
  let key := lowered key
  let value := lowered value
  (contains "cidr".toList key && contains "0.0.0.0/0".toList value) ||
    (contains "action".toList key && value == ['*']) ||
    (contains "resource".toList key && value == ['*']) ||
    (contains "public".toList key && (value == "true".toList || value == ['1']))

/-- The block looks as if it had a security issue. -/
def hasIssues (b : Block) : Bool :=
  containsAny riskyWords (lowered b.type) || containsAny riskyWords (lowered b.name) ||
    b.assignments.any fun p => isRisky p.1 p.2

end Selection

end InfraEvidence
