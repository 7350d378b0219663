/-
  InfraEvidence — the security posture of a collection of blocks.

  Three analyses go through the blocks, each with a score in `[0, 1]` that is
  one where there is nothing to judge.

  * `Ratio`: a quotient that is kept as its two counts, so that it can be
    compared exactly; with nothing to count it is one;
  * `EncryptionPosture`: the blocks with an encryption setting, and those that
    should have one (`encryptionMethod?`, `Control.requiresEncryption`);
  * `AccessPosture`: roles and policies, and grants to everything;
  * `NetworkPosture`: network controls, with their open and their restricted
    address ranges (`rangeFindings`);
  * `Analysis`: one of the three; `analyzeAll`: all of them;
  * `encryptionRatio`, `accessRatio`, `networkRatio`: the scores as such
    quotients, of which the scores are the nearest floating-point numbers.
-/
import InfraEvidence.Block.Basic
import InfraEvidence.Control.Table

namespace InfraEvidence

open Text

/-! ## Quotients -/

/-- `part` of `total`, one where `total` is zero. -/
structure Ratio where
  /-- What counts -/
  part : Nat
  /-- What it is counted among -/
  total : Nat
deriving DecidableEq

/-- The floating-point number nearest to a quotient. -/
def Ratio.toFloat (r : Ratio) : Float :=
  if r.total = 0 then 1.0 else Float.ofNat r.part / Float.ofNat r.total

namespace Posture

/-! ## Encryption -/

/-- What encrypts the resource, if the setting encrypts it: a flag that is on,
    or the name of a key. -/
def encryptionMethodOf? (key value : String) : Option String :=
  let key := lowered key
  let value := lowered value
  let isFlag := contains "encrypt".toList key &&
    (value == "true".toList || value == "enabled".toList)
  if isFlag || containsAny ["kms_key", "encryption_key"] key then
    some (if contains "kms".toList key then "KMS" else "Unknown")
  else none

/-- What encrypts a block: its first setting that does. -/
def encryptionMethod? (b : Block) : Option String :=
  b.settings.entries.findSome? fun e => encryptionMethodOf? e.1 e.2

/-- The block should be encrypted and is not. -/
def lacksEncryption (b : Block) : Bool :=
  (encryptionMethod? b).isNone && Control.requiresEncryption b.type

/-- The encryption of a collection. -/
structure EncryptionPosture where
  /-- The blocks with an encryption setting -/
  encrypted : List String
  /-- The blocks that should have one -/
  unencrypted : List String
  /-- The encrypted blocks by what encrypts them -/
  methods : Dict (List String)
  /-- The number of blocks -/
  total : Nat
  /-- The share of the encrypted blocks -/
  score : Float

/-- The references to some blocks. -/
def references (bs : List Block) : List String := bs.map (·.canonicalReference)

/-- The encrypted blocks by what encrypts them. -/
def methodsOf (bs : List Block) : Dict (List String) :=
  bs.foldl (fun d b =>
    match encryptionMethod? b with
    | some m => d.addTo m (· ++ [b.canonicalReference]) [b.canonicalReference]
    | none => d) Dict.empty

/-- The blocks with an encryption setting. -/
def encryptedIn (bs : List Block) : List Block := bs.filter fun b => (encryptionMethod? b).isSome

/-- The share of the encrypted blocks. -/
def encryptionRatio (bs : List Block) : Ratio :=
  ⟨(encryptedIn bs).length, (encryptedIn bs).length + (bs.filter lacksEncryption).length⟩

/-- The encryption of a collection. -/
def analyzeEncryption (bs : List Block) : EncryptionPosture where
  encrypted := references (encryptedIn bs)
  unencrypted := references (bs.filter lacksEncryption)
  methods := methodsOf bs
  total := bs.length
  score := (encryptionRatio bs).toFloat

/-! ## Access -/

/-- The block is a role. -/
def isRole (b : Block) : Bool := contains "iam_role".toList (lowered b.type)

/-- The block is a policy. -/
def isPolicy (b : Block) : Bool := !isRole b && contains "iam_policy".toList (lowered b.type)

/-- The assignment grants everything. -/
def grantsAll (key value : String) : Bool :=
  value == "*" && containsAny ["action", "resource", "principal"] (lowered key)

/-- An assignment of the block grants everything. -/
def isPermissive (b : Block) : Bool := b.assignments.any fun p => grantsAll p.1 p.2

/-- The access rules of a collection. -/
structure AccessPosture where
  /-- The roles -/
  roles : List String
  /-- The policies -/
  policies : List String
  /-- The blocks that grant everything, of any type -/
  permissive : List String
  /-- The number of roles and policies -/
  total : Nat
  /-- The share of the roles and policies without the permissive blocks -/
  score : Float

/-- The number of roles and policies. -/
def accessTotal (bs : List Block) : Nat := (bs.filter isRole).length + (bs.filter isPolicy).length

/-- The share of roles and policies that remains when the permissive blocks are
    taken away, zero if there are more of those. -/
def accessRatio (bs : List Block) : Ratio :=
  ⟨accessTotal bs - (bs.filter isPermissive).length, accessTotal bs⟩

/-- The access rules of a collection. -/
def analyzeAccess (bs : List Block) : AccessPosture where
  roles := references (bs.filter isRole)
  policies := references (bs.filter isPolicy)
  permissive := references (bs.filter isPermissive)
  total := accessTotal bs
  score := (accessRatio bs).toFloat

/-! ## Network -/

/-- The words in the types of network controls. -/
def controlWords : List String := ["security_group", "firewall", "nacl"]

/-- The block is a network control. -/
def isNetworkControl (b : Block) : Bool := containsAny controlWords (lowered b.type)

/-- The assignment is about address ranges. -/
def isRangeKey (key : String) : Bool := contains "cidr".toList (lowered key)

/-- The address ranges that admit everyone. -/
def openRanges : List String := ["0.0.0.0/0", "::/0"]

/-- The value has an address range that admits everyone. -/
def isOpenRange (value : String) : Bool := containsAny openRanges (lowered value)

/-- The address ranges that a block sets. -/
def ranges (b : Block) : List String :=
  (b.assignments.filter fun p => isRangeKey p.1).map (·.2)

/-- The reference to a network control, once for each of its address ranges
    that `test` selects. -/
def rangeFindings (test : String → Bool) (bs : List Block) : List String :=
  (bs.filter isNetworkControl).flatMap fun b =>
    ((ranges b).filter test).map fun _ => b.canonicalReference

/-- The network controls of a collection. -/
structure NetworkPosture where
  /-- The network controls -/
  groups : List String
  /-- One entry for each open range -/
  openRanges : List String
  /-- One entry for each restricted range -/
  restricted : List String
  /-- The number of network controls -/
  total : Nat
  /-- The share of the restricted ranges -/
  score : Float

/-- The share of the restricted ranges. -/
def networkRatio (bs : List Block) : Ratio :=
  let restricted := (rangeFindings (fun v => !isOpenRange v) bs).length
  ⟨restricted, (rangeFindings isOpenRange bs).length + restricted⟩

/-- The network controls of a collection. -/
def analyzeNetwork (bs : List Block) : NetworkPosture where
  groups := references (bs.filter isNetworkControl)
  openRanges := rangeFindings isOpenRange bs
  restricted := rangeFindings (fun v => !isOpenRange v) bs
  total := (bs.filter isNetworkControl).length
  score := (networkRatio bs).toFloat

/-! ## All three -/

/-- One analysis. -/
inductive Analysis where
  | encryption (a : EncryptionPosture)
  | access (a : AccessPosture)
  | network (a : NetworkPosture)

/-- The name of what is analyzed. -/
def Analysis.category : Analysis → String
  | encryption _ => "encryption"
  | access _ => "iam"
  | network _ => "network"

/-- The score of an analysis. -/
def Analysis.score : Analysis → Float
  | encryption a => a.score
  | access a => a.score
  | network a => a.score

/-- The three analyses of a collection. -/
def analyzeAll (bs : List Block) : List Analysis :=
  [.encryption (analyzeEncryption bs), .access (analyzeAccess bs), .network (analyzeNetwork bs)]

end Posture

end InfraEvidence
