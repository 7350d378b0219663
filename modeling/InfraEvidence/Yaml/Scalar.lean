/-
  InfraEvidence — the text of YAML scalars.

  * `Yaml.Folding`: the text of a scalar that goes over several lines, and
    the blanks and breaks after it, which count only if more text follows;
  * `plainScalar?`: a scalar without quotes;
  * `quotedScalar?`: a scalar between quotes, with escapes between double ones;
  * `blockScalar?`: a scalar of whole lines, kept as they are or folded.
  Each reads from a place in the text and yields the place after the scalar, or
  nothing where the text is malformed.
-/
import InfraEvidence.Yaml.Cursor

namespace InfraEvidence

namespace Yaml

/-! ## Folding -/

/-- The text of a scalar so far, and what stands between it and more text. -/
structure Folding where
  /-- The text -/
  text : List Char := []
  /-- The blanks after it on the same line -/
  spaces : List Char := []
  /-- A line has ended since -/
  broken : Bool := false
  /-- The first line break since -/
  firstBreak : List Char := []
  /-- The further line breaks -/
  moreBreaks : List Char := []

namespace Folding

/-- What stands for blanks and breaks before more text: a single line feed
    becomes a blank. -/
def gap (f : Folding) : List Char :=
  if f.broken then
    if f.firstBreak = ['\n'] then if f.moreBreaks.isEmpty then [' '] else f.moreBreaks
    else f.firstBreak ++ f.moreBreaks
  else f.spaces

/-- More text. -/
def add (f : Folding) (more : List Char) : Folding := { text := f.text ++ f.gap ++ more }

/-- A blank; those after a break do not count. -/
def space (f : Folding) (c : Char) : Folding :=
  if f.broken then f else { f with spaces := f.spaces ++ [c] }

/-- A line break. -/
def lineBreak (f : Folding) (text : List Char) : Folding :=
  if f.broken then { f with moreBreaks := f.moreBreaks ++ text }
  else { f with broken := true, spaces := [], firstBreak := text }

end Folding

/-- Goes over blanks and breaks.  A tab before the column `indent` of a line
    that continues the scalar is refused. -/
def skipGaps? (indent : Int) : Nat → Cursor → Folding → Option (Cursor × Folding)
  | 0, _, _ => none
  | fuel + 1, c, f =>
    match c.rest.head? with
    | none => some (c, f)
    | some x =>
      if isSpace x then
        if x = '\t' ∧ f.broken = true ∧ (c.column : Int) < indent then none
        else skipGaps? indent fuel (c.skip 1) (f.space x)
      else if isBreak x then skipGaps? indent fuel c.skipBreak (f.lineBreak c.breakText)
      else some (c, f)

/-! ## Plain scalars -/

/-- The characters that structure flow collections. -/
def isFlowMark (c : Char) : Bool := [',', '[', ']', '{', '}'].contains c

/-- The characters of a plain scalar up to a blank, a break or the end of the
    scalar; nothing where a colon runs into a mark of a flow collection. -/
def plainRun? (inFlow : Bool) : List Char → Option (List Char)
  | [] => some []
  | x :: rest =>
    if isGap x then some []
    else if inFlow && x == ':' && (rest.head?.any fun y => isFlowMark y || y == '?') then none
    else if (x == ':' && endsWord rest) || (inFlow && isFlowMark x) then some []
    else (plainRun? inFlow rest).map (x :: ·)

/-- Continues a plain scalar, whose lines have to stand at the column `indent`
    at least, unless in a flow collection. -/
def plainFrom? (inFlow : Bool) (indent : Int) :
    Nat → Cursor → Folding → Option (Cursor × Folding)
  | 0, _, _ => none
  | fuel + 1, c, f =>
    if c.atMarker || c.rest.head? == some '#' then some (c, f)
    else do
      let run ← plainRun? inFlow c.rest
      let c := c.skip run.length
      let f := if run.isEmpty then f else f.add run
      if !(c.rest.head?.any isGap) then return (c, f)
      let (c, f) ← skipGaps? indent (c.rest.length + 1) c f
      if !inFlow && (c.column : Int) < indent then return (c, f)
      plainFrom? inFlow indent fuel c f

/-- A plain scalar: its text, whether a line has ended after it, and the place
    after it. -/
def plainScalar? (inFlow : Bool) (indent : Int) (c : Cursor) :
    Option (String × Bool × Cursor) :=
  (plainFrom? inFlow indent (c.rest.length + 1) c {}).map fun (c, f) =>
    (String.ofList f.text, f.broken, c)

/-! ## Quoted scalars -/

/-- The value of a hexadecimal digit. -/
def hexValue? (c : Char) : Option Nat :=
  let n := c.toNat
  if 48 ≤ n ∧ n ≤ 57 then some (n - 48)
  else if 65 ≤ n ∧ n ≤ 70 then some (n - 55)
  else if 97 ≤ n ∧ n ≤ 102 then some (n - 87)
  else none

/-- The number that hexadecimal digits denote. -/
def hexNumber? (digits : List Char) : Option Nat :=
  digits.foldlM (fun n c => (hexValue? c).map (n * 16 + ·)) 0

/-- The characters that a backslash and one letter stand for. -/
def simpleEscapes : List (Char × Nat) :=
  [('0', 0), ('a', 7), ('b', 8), ('t', 9), ('\t', 9), ('n', 10), ('v', 11), ('f', 12), ('r', 13),
    ('e', 0x1B), (' ', 0x20), ('"', 0x22), ('/', 0x2F), ('\\', 0x5C), ('N', 0x85), ('_', 0xA0),
    ('L', 0x2028), ('P', 0x2029)]

/-- The numbers of digits after the letters that introduce a code point. -/
def codeLengths : List (Char × Nat) := [('x', 2), ('u', 4), ('U', 8)]

/-- The character of an escape after its backslash, and the length of the
    escape without the backslash. -/
def escape? : List Char → Option (Char × Nat)
  | [] => none
  | x :: rest =>
    match simpleEscapes.lookup x with
    | some n => some (Char.ofNat n, 1)
    | none => do
      let length ← codeLengths.lookup x
      if rest.length < length then none
      else
        let n ← hexNumber? (rest.take length)
        if n.isValidChar then some (Char.ofNat n, length + 1) else none

/-- The text of a quoted scalar up to a blank, a break, the closing quote or an
    escaped break, and the place after it. -/
def quotedRun? (quote : Char) : Nat → Cursor → List Char → Option (List Char × Cursor)
  | 0, _, _ => none
  | fuel + 1, c, run =>
    match c.rest with
    | [] => some (run, c)
    | x :: rest =>
      if isGap x then some (run, c)
      else if x = quote then
        if quote = '\x27' ∧ rest.head? = some quote then
          quotedRun? quote fuel (c.skip 2) (run ++ [quote])
        else some (run, c)
      else if quote = '"' ∧ x = '\\' then
        if rest.head?.any isBreak then some (run, c)
        else do
          let (y, length) ← escape? rest
          quotedRun? quote fuel (c.skip (length + 1)) (run ++ [y])
      else quotedRun? quote fuel (c.skip 1) (run ++ [x])

/-- Continues a quoted scalar after its opening quote. -/
def quotedFrom? (quote : Char) : Nat → Cursor → Folding → Option (Cursor × Folding)
  | 0, _, _ => none
  | fuel + 1, c, f =>
    if c.atMarker || c.rest.isEmpty then none
    else do
      let (run, c) ← quotedRun? quote (c.rest.length + 1) c []
      let f := if run.isEmpty then f else f.add run
      match c.rest with
      | [] => none
      | x :: _ =>
        if x = quote then return (c.skip 1, f.add [])
        else if x = '\\' then
          let f : Folding := { f.add [] with broken := true }
          let (c, f) ← skipGaps? 0 (c.rest.length + 1) (c.skip 1).skipBreak f
          quotedFrom? quote fuel c f
        else
          let (c, f) ← skipGaps? 0 (c.rest.length + 1) c f
          quotedFrom? quote fuel c f

/-- A quoted scalar from its opening quote on: its text, and the place after
    the closing quote. -/
def quotedScalar? (quote : Char) (c : Cursor) : Option (String × Cursor) :=
  (quotedFrom? quote (c.rest.length + 1) (c.skip 1) {}).map fun (c, f) => (String.ofList f.text, c)

/-! ## Block scalars -/

/-- What becomes of the line breaks at the end of a block scalar. -/
inductive Chomping where
  | strip
  | clip
  | keep
deriving DecidableEq

/-- The signs for what becomes of the breaks at the end. -/
def chomping? : Char → Option Chomping
  | '+' => some .keep
  | '-' => some .strip
  | _ => none

/-- The depth that a digit of a block header tells; zero is refused. -/
def depth? (c : Char) : Option Nat :=
  if '1' ≤ c ∧ c ≤ '9' then some (c.toNat - 48) else none

/-- The header of a block scalar after its mark: what becomes of the breaks at
    the end, the depth if it is given, and the length of the header. -/
def blockHeader? (s : List Char) : Option (Chomping × Option Nat × Nat) :=
  match s with
  | [] => some (.clip, none, 0)
  | x :: rest =>
    match chomping? x with
    | some ch =>
      match rest with
      | y :: _ =>
        if y.isDigit then (depth? y).map fun d => (ch, some d, 2) else some (ch, none, 1)
      | [] => some (ch, none, 1)
    | none =>
      if x.isDigit then do
        let d ← depth? x
        match rest.head?.bind chomping? with
        | some ch => some (ch, some d, 2)
        | none => some (.clip, some d, 1)
      else some (.clip, none, 0)

/-- Goes over the empty lines of a block scalar: the column of the deepest
    blank, the breaks, and the place after them.  With the depth zero, that is
    not known yet, all blanks of a line are passed over. -/
def blockBreaks? (indent : Nat) : Nat → Nat → Cursor → List Char →
    Option (Nat × List Char × Cursor)
  | 0, _, _, _ => none
  | fuel + 1, deepest, c, breaks =>
    let spaces := c.rest.takeWhile (· == ' ')
    let n := if indent = 0 then spaces.length else min spaces.length (indent - c.column)
    let c := c.skip n
    let deepest := max deepest c.column
    if (indent = 0 ∨ c.column < indent) ∧ c.rest.head? = some '\t' then none
    else if c.rest.head?.any isBreak then
      blockBreaks? indent fuel deepest c.skipBreak (breaks ++ c.breakText)
    else some (deepest, breaks, c)

/-- The lines of a block scalar at the depth `indent`: `text` has been read,
    with `lead` the break of its last line and `breaks` those of the empty
    lines after it; `wasSpace` tells whether its last line began with a blank. -/
def blockLines? (isLiteral : Bool) (indent : Nat) : Nat → Cursor → List Char → List Char →
    List Char → Bool → Option (List Char × List Char × List Char × Cursor)
  | 0, _, _, _, _, _ => none
  | fuel + 1, c, text, lead, breaks, wasSpace =>
    if c.column ≠ indent ∨ c.rest.isEmpty then some (text, lead, breaks, c)
    else do
      let startsSpace := c.rest.head?.any isSpace
      let lead :=
        if !isLiteral && lead == ['\n'] && !wasSpace && !startsSpace then
          if breaks.isEmpty then [' '] else []
        else lead
      let (run, c) := c.span fun _ => true
      let text := text ++ lead ++ breaks ++ run
      let lead := c.breakText
      let c := c.skipBreak
      let (_, breaks, c) ← blockBreaks? indent (c.rest.length + 1) 0 c []
      blockLines? isLiteral indent fuel c text lead breaks startsSpace

/-- A block scalar from its mark on, below a block at the column `parent`: its
    text, and the place after it. -/
def blockScalar? (isLiteral : Bool) (parent : Int) (c : Cursor) : Option (String × Cursor) := do
  let (chomp, depth, length) ← blockHeader? (c.rest.drop 1)
  let c := (c.skip (length + 1)).skipToLineEnd
  if !c.atLineEnd then none
  else
    let c := c.skipBreak
    let given := match depth with
      | some d => (max parent 0).toNat + d
      | none => 0
    let (deepest, breaks, c) ← blockBreaks? given (c.rest.length + 1) 0 c []
    let indent := if given = 0 then max (max deepest (parent + 1).toNat) 1 else given
    let (text, lead, breaks, c) ←
      blockLines? isLiteral indent (c.rest.length + 1) c [] [] breaks false
    let ending := match chomp with
      | .strip => []
      | .clip => lead
      | .keep => lead ++ breaks
    return (String.ofList (text ++ ending), c)

end Yaml

end InfraEvidence
