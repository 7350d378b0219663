/-
  InfraEvidence — blocks of an infrastructure configuration.

  * `Block`: one well-delimited block: where it stands, its type and name, its
    settings, its text, and the control codes that it may evidence;
  * `Block.set`: an assignment goes both to the settings, where a repeated
    key keeps its last value, and to the list of assignments, which keeps all;
  * `Block.canonicalReference`: the name `type.name` of a block;
  * `Block.Coherent`: settings and assignments agree on every key but `noteKey`.
-/
import InfraEvidence.Order.Dict
import InfraEvidence.Order.NameSet

namespace InfraEvidence

/-- A well-delimited block. -/
structure Block where
  /-- The source that the block comes from -/
  file : String
  /-- Its type (`aws_s3_bucket`, `module`, `locals`) -/
  type : String
  /-- Its name -/
  name : String
  /-- Its first line, counted from 1 -/
  firstLine : Nat
  /-- Its last line -/
  lastLine : Nat
  /-- The last value of every key -/
  settings : Dict String
  /-- Every assignment, in the order of the lines -/
  assignments : List (String × String)
  /-- The text of the block -/
  rawText : String
  /-- How other blocks refer to it: resources and module calls only -/
  reference : Option String
  /-- The control codes that it may evidence -/
  controls : NameSet
deriving DecidableEq

namespace Block

/-- A block that begins at `line`, with nothing in it. -/
def starting (file type name : String) (line : Nat) : Block where
  file := file
  type := type
  name := name
  firstLine := line
  lastLine := line
  settings := Dict.empty
  assignments := []
  rawText := ""
  reference := none
  controls := NameSet.empty

/-- An assignment: the last one of a key decides its setting. -/
def set (b : Block) (key value : String) : Block :=
  { b with
    assignments := b.assignments ++ [(key, value)]
    settings := b.settings.insert key value }

/-- Several assignments, in order. -/
def setAll (b : Block) (pairs : List (String × String)) : Block :=
  pairs.foldl (fun b p => b.set p.1 p.2) b

/-- The block with the control codes of a list. -/
def withControls (b : Block) (codes : List String) : Block :=
  { b with controls := NameSet.ofList codes }

/-- The name of a block in a collection. -/
def canonicalReference (b : Block) : String := b.type ++ "." ++ b.name

/-- The lines of a block, as `first-last`. -/
def lineRange (b : Block) : String := toString b.firstLine ++ "-" ++ toString b.lastLine

/-- The key under which the security-relevant lines of a block are gathered. -/
def noteKey : String := "security_config"

/-- Settings and assignments agree: a key other than `noteKey` is set to the
    value of its last assignment. -/
def Coherent (b : Block) : Prop :=
  ∀ key, key ≠ noteKey →
    b.settings.get? key = (b.assignments.reverse.lookup key)

end Block

end InfraEvidence
