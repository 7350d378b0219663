/-
  InfraEvidence — the settings that the lines of a block make.

  * `cleanValue`: the value on the right of an equals sign: up to the first
    `#` outside quotes, trimmed, without one layer of quotes around it;
  * `assignment?`: the key and the value of a line `key = value`;
  * `isComment`: the lines that say nothing, blank ones included;
  * `isNotable`: the lines that matter to security, by their words;
  * `Block.readLine`: what a line adds to its block: its assignment, and,
    under `Block.noteKey`, the line itself if it is notable.
-/
import InfraEvidence.Block.Basic
import InfraEvidence.Text.Blank
import InfraEvidence.Text.Lowercase
import InfraEvidence.Text.Search
import InfraEvidence.Text.Word

namespace InfraEvidence

open Text

/-! ## Values -/

/-- The text before the first `#` outside quotes.  A quote character opens a
    quoted part, which only the same character closes. -/
def cutComment : Option Char → List Char → List Char
  | _, [] => []
  | none, c :: s =>
    if c = '#' then []
    else if c = '"' ∨ c = '\x27' then c :: cutComment (some c) s
    else c :: cutComment none s
  | some q, c :: s => c :: cutComment (if c = q then none else some q) s

/-- What stands between two quotes `q` around the whole text. -/
def unquote? (q : Char) (s : List Char) : Option (List Char) :=
  match s with
  | c :: rest => if c = q ∧ rest.getLast? = some q then some rest.dropLast else none
  | [] => none

/-- A text without one layer of quotes around it, double ones first. -/
def stripQuotes (s : List Char) : List Char :=
  ((unquote? '"' s).or (unquote? '\x27' s)).getD s

/-- The value that the text after an equals sign stands for. -/
def cleanValue (rhs : List Char) : List Char := stripQuotes (trim (cutComment none rhs))

/-! ## Lines -/

/-- The key and the value of a line that makes an assignment. -/
def assignment? (line : List Char) : Option (String × String) := do
  let (key, rest) ← identifier? (trimStart line)
  match trimStart rest with
  | '=' :: rhs => some (String.ofList key, String.ofList (cleanValue rhs))
  | _ => none

/-- A blank line or a comment. -/
def isComment (line : List Char) : Bool :=
  line.isEmpty || line.head? == some '#' || "//".toList.isPrefixOf line

/-- The words that make a line notable. -/
def notableWords : List String := ["policy", "security", "encryption", "access"]

/-- The line has one of the notable words, in any case. -/
def isNotable (line : List Char) : Bool :=
  notableWords.any fun w => contains w.toList (lower line)

namespace Block

/-- A line among the notes of the block. -/
def addNote (b : Block) (line : String) : Block :=
  { b with settings := b.settings.addTo noteKey (fun notes => notes ++ "\n" ++ line) line }

/-- The assignment of a line, if it makes one. -/
def addAssignment (b : Block) (line : List Char) : Block :=
  match assignment? line with
  | some (key, value) => b.set key value
  | none => b

/-- What a trimmed line adds to its block. -/
def readLine (b : Block) (line : List Char) : Block :=
  if isComment line then b
  else if isNotable line then (b.addAssignment line).addNote (String.ofList line)
  else b.addAssignment line

end Block

end InfraEvidence
