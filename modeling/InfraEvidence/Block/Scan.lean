/-
  InfraEvidence — finding the blocks of a text.

  A scan goes through the lines of a text.  It seeks a line that opens a block
  (`BlockScanner.open?`); from there on it counts braces (`braceDelta`), until
  the number of open ones falls to zero or below on some line, the last one
  of the block.  A block that is never closed is dropped.

  * `BlockScanner`: the kind of blocks to find and, for resources, the types;
  * `BlockScanner.step`: what one line does to the state of the scan;
  * `BlockScanner.scanLines`, `scan`: the blocks of some lines, of a text;
  * `BlockScanner.scanBytes?`: the blocks of a text given by its bytes; a line
    that is no text is a fault of the source.
-/
import InfraEvidence.Block.Opening
import InfraEvidence.Block.Setting
import InfraEvidence.Control.AllowList
import InfraEvidence.Control.Table
import InfraEvidence.Text.Utf8

namespace InfraEvidence

open Text

/-- The number of opening braces of a line less the number of closing ones. -/
def braceDelta (line : List Char) : Int := (line.count '{' : Int) - line.count '}'

/-- What to look for in a text. -/
structure BlockScanner where
  /-- The kind of the blocks -/
  kind : BlockKind
  /-- The types of resources that are admitted -/
  types : AllowList

namespace BlockScanner

/-- Where a scan stands between two lines. -/
inductive State where
  /-- Outside of blocks -/
  | seeking
  /-- In a block, with so many braces open -/
  | inside (block : Block) (depth : Int)

/-- The opening that a line is for the scanner. -/
def open? (sc : BlockScanner) (line : List Char) : Option Opening :=
  match Opening.parse? sc.kind (trim line) with
  | some o =>
    if sc.kind = .resource ∧ sc.types.admits (String.ofList o.type) = false then none else some o
  | none => none

/-- The block that an opening begins: a resource has its control codes, and
    resources and module calls can be referred to. -/
def begin (sc : BlockScanner) (file : String) (line : Nat) (o : Opening) : Block :=
  let b := Block.starting file (String.ofList o.type) (String.ofList o.name) line
  match sc.kind with
  | .resource =>
    { b with reference := some b.canonicalReference, controls := Control.codesOf b.type }
  | .moduleCall => { b with reference := some b.canonicalReference }
  | .dataSource | .locals => b

/-- The block with a line of its text. -/
def addText (b : Block) (line : List Char) : Block :=
  { b with rawText := b.rawText ++ String.ofList (line ++ ['\n']) }

/-- The block that opens and closes on one line: what stands between its
    braces is read as a line of its own. -/
def oneLine (b : Block) (line : List Char) : Block :=
  match betweenBraces? line with
  | some inner => addText (b.readLine (trim inner)) line
  | none => addText b line

/-- What the line with the number `n` does: the state after it, and the block
    that it completes. -/
def step (sc : BlockScanner) (file : String) (n : Nat) (line : List Char) :
    State → State × Option Block
  | .seeking =>
    match sc.open? line with
    | none => (.seeking, none)
    | some o =>
      let b := sc.begin file n o
      if 0 < braceDelta line then (.inside (addText b line) (braceDelta line), none)
      else (.seeking, some (oneLine b line))
  | .inside b depth =>
    let b := (addText b line).readLine (trim line)
    let depth := depth + braceDelta line
    if 0 < depth then (.inside b depth, none) else (.seeking, some { b with lastLine := n })

/-- The blocks that the lines from number `n` on complete, from a state. -/
def scanFrom (sc : BlockScanner) (file : String) : Nat → State → List (List Char) → List Block
  | _, _, [] => []
  | n, st, line :: rest =>
    let (st, done) := sc.step file n line st
    done.toList ++ scanFrom sc file (n + 1) st rest

/-- The blocks of some lines. -/
def scanLines (sc : BlockScanner) (file : String) (ls : List (List Char)) : List Block :=
  sc.scanFrom file 1 .seeking ls

/-- The blocks of a text. -/
def scan (sc : BlockScanner) (file : String) (text : String) : List Block :=
  sc.scanLines file (lines text.toList)

/-- The blocks of a text given by its bytes. -/
def scanBytes? (sc : BlockScanner) (file : String) (bytes : List UInt8) :
    Except Fault (List Block) :=
  match decodeLines? bytes with
  | some ls => .ok (sc.scanLines file ls)
  | none => .error (.invalidUtf8 file)

end BlockScanner

end InfraEvidence
