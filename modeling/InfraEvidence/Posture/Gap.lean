/-
  InfraEvidence — the gaps between a posture and what is required.

  * `Gap`: one finding about one block, with its severity;
  * `Posture.Findings`: what gaps are found from: those of a collection
    (`Findings.ofBlocks`), or of some analyses, the last one of each kind
    (`Findings.ofAnalyses`);
  * `Posture.gaps`: the gaps of the findings that are required to be none, in
    the order encryption, access, network;
  * `Posture.securityGaps`: the gaps of a collection.
-/
import InfraEvidence.Posture.Analysis

namespace InfraEvidence

namespace Posture

/-- How urgent a gap is. -/
inductive Severity where
  | medium
  | high
deriving DecidableEq

/-- What a gap is about. -/
inductive GapKind where
  | encryption
  | access
  | network
deriving DecidableEq

/-- The name of a severity. -/
def Severity.name : Severity → String
  | medium => "medium"
  | high => "high"

/-- The name of a severity in capitals. -/
def Severity.capitals : Severity → String
  | medium => "MEDIUM"
  | high => "HIGH"

/-- The name of what a gap is about. -/
def GapKind.name : GapKind → String
  | encryption => "encryption"
  | access => "iam"
  | network => "network"

/-- What a gap of the kind means. -/
def GapKind.description : GapKind → String
  | encryption => "Resource should be encrypted but encryption is not configured"
  | access => "Resource has overly permissive IAM configuration"
  | network => "Resource allows unrestricted network access (0.0.0.0/0)"

/-- How urgent a gap of the kind is. -/
def GapKind.severity : GapKind → Severity
  | encryption | network => .high
  | access => .medium

/-- A gap: something about a block that does not meet the requirements. -/
structure Gap where
  /-- What it is about -/
  kind : GapKind
  /-- The reference to the block -/
  resource : String
deriving DecidableEq

/-- The findings that become gaps. -/
structure Findings where
  /-- The blocks that should be encrypted -/
  unencrypted : List String
  /-- The blocks that grant everything -/
  permissive : List String
  /-- One entry for each open address range -/
  openRanges : List String
deriving DecidableEq

/-- No findings. -/
def Findings.none : Findings := ⟨[], [], []⟩

/-- The findings with those of one analysis in place. -/
def Findings.take (f : Findings) : Analysis → Findings
  | .encryption a => { f with unencrypted := a.unencrypted }
  | .access a => { f with permissive := a.permissive }
  | .network a => { f with openRanges := a.openRanges }

/-- The findings of some analyses, the last one of each kind. -/
def Findings.ofAnalyses (as : List Analysis) : Findings := as.foldl Findings.take .none

/-- The findings of a collection. -/
def Findings.ofBlocks (bs : List Block) : Findings where
  unencrypted := (analyzeEncryption bs).unencrypted
  permissive := (analyzeAccess bs).permissive
  openRanges := (analyzeNetwork bs).openRanges

/-- What is required. -/
structure Requirements where
  /-- Data is encrypted -/
  encryption : Bool := true
  /-- No grants to everything -/
  leastPrivilege : Bool := true
  /-- No open address ranges -/
  restrictedNetwork : Bool := true
deriving DecidableEq

/-- The gaps of one kind, if they are asked for. -/
def gapsOf (required : Bool) (kind : GapKind) (resources : List String) : List Gap :=
  if required then resources.map (Gap.mk kind) else []

/-- The gaps of some findings. -/
def gaps (f : Findings) (r : Requirements) : List Gap :=
  gapsOf r.encryption .encryption f.unencrypted ++ gapsOf r.leastPrivilege .access f.permissive ++
    gapsOf r.restrictedNetwork .network f.openRanges

/-- The gaps of a collection. -/
def securityGaps (bs : List Block) (r : Requirements) : List Gap :=
  gaps (Findings.ofBlocks bs) r

end Posture

end InfraEvidence
