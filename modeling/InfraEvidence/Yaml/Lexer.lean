/-
  InfraEvidence — reading the tokens of a YAML text.

  * `Yaml.Lexer`: a place in the text, the tokens before it, the columns of the
    open blocks, and the scalars that may turn out to be keys (`KeyCandidate`);
  * `Lexer.step?`: reads one token, and those that follow from the columns;
  * `Yaml.tokens?`: the tokens of a text, or nothing if it is malformed.

  A key is known as one only when its `:` is met.  Then the key token, and the
  start of a block mapping, are put in before it (`Lexer.insertAt`).  A
  candidate is given up behind its line, or 1024 characters behind it.
-/
import InfraEvidence.Text.Utf8
import InfraEvidence.Yaml.Scalar
import InfraEvidence.Yaml.Token

namespace InfraEvidence

namespace Yaml

/-- Something that is a key if a `:` follows. -/
structure KeyCandidate where
  /-- It has to be a key: it stands where a key of a block is due -/
  required : Bool
  /-- The number of tokens before it -/
  number : Nat
  /-- Where it begins -/
  index : Nat
  line : Nat
  column : Nat

/-- The state between two tokens. -/
structure Lexer where
  /-- The place in the text -/
  cursor : Cursor
  /-- The tokens before it -/
  tokens : List Token := []
  /-- The column of the innermost open block, -1 without one -/
  indent : Int := -1
  /-- The columns of the blocks around it -/
  outer : List Int := []
  /-- The candidates, in the innermost flow collection and those around it -/
  candidates : List (Option KeyCandidate) := [none]
  /-- A key may begin here -/
  keyAllowed : Bool := true

namespace Lexer

/-- The place is in a flow collection. -/
def inFlow (l : Lexer) : Bool := 1 < l.candidates.length

/-- One more token. -/
def push (l : Lexer) (t : Token) : Lexer := { l with tokens := l.tokens ++ [t] }

/-- A token put in before the one with the number `n`. -/
def insertAt (l : Lexer) (n : Nat) (t : Token) : Lexer :=
  { l with tokens := l.tokens.take n ++ t :: l.tokens.drop n }

/-- The place after `n` characters of the line. -/
def skip (l : Lexer) (n : Nat) : Lexer := { l with cursor := l.cursor.skip n }

/-- Allows a key to begin, or not. -/
def allowKey (l : Lexer) (allowed : Bool) : Lexer := { l with keyAllowed := allowed }

/-! ## Candidates for keys -/

/-- The candidate is behind the place. -/
def isStale (c : Cursor) (k : KeyCandidate) : Bool :=
  k.line < c.line || k.index + 1024 < c.index

/-- Gives up the candidates that are behind; one that has to be a key fails. -/
def dropStale? (l : Lexer) : Option Lexer :=
  if l.candidates.any fun k => k.any fun k => isStale l.cursor k && k.required then none
  else some { l with candidates := l.candidates.map (Option.filter fun k => !isStale l.cursor k) }

/-- The innermost candidate replaced. -/
def setCandidate (l : Lexer) (k : Option KeyCandidate) : Lexer :=
  { l with candidates := k :: l.candidates.drop 1 }

/-- Gives up the innermost candidate; one that has to be a key fails. -/
def dropCandidate? (l : Lexer) : Option Lexer :=
  if (l.candidates.head?.join).any (·.required) then none else some (l.setCandidate none)

/-- What begins here may be a key, where one may begin. -/
def saveCandidate? (l : Lexer) : Option Lexer :=
  if l.keyAllowed then do
    let required := !l.inFlow && l.indent == (l.cursor.column : Int)
    let l ← l.dropCandidate?
    return l.setCandidate (some
      ⟨required, l.tokens.length, l.cursor.index, l.cursor.line, l.cursor.column⟩)
  else some l

/-! ## Blocks -/

/-- Opens a block at a column that is deeper than the innermost one; its token
    goes before the one with the number `n`. -/
def openBlock (l : Lexer) (column n : Nat) (t : Token) : Lexer :=
  if !l.inFlow && l.indent < (column : Int) then
    { l.insertAt n t with indent := column, outer := l.indent :: l.outer }
  else l

/-- Closes the blocks among `outer` that are deeper than a column. -/
def closeDeeper (column : Int) : Int → List Int → List Token → Int × List Int × List Token
  | indent, [], ts => (indent, [], ts)
  | indent, i :: is, ts =>
    if column < indent then closeDeeper column i is (ts ++ [.blockEnd]) else (indent, i :: is, ts)

/-- Closes the blocks that are deeper than a column. -/
def closeBlocks (l : Lexer) (column : Int) : Lexer :=
  if l.inFlow then l
  else
    let (indent, outer, ts) := closeDeeper column l.indent l.outer []
    { l with indent := indent, outer := outer, tokens := l.tokens ++ ts }

/-! ## Blanks and comments -/

/-- The place of the next token. -/
def skipGaps : Nat → Lexer → Lexer
  | 0, l => l
  | fuel + 1, l =>
    let tabs := l.inFlow || !l.keyAllowed
    let c := (l.cursor.span fun x => x == ' ' || (tabs && x == '\t')).2
    let c := if c.rest.head? = some '#' then (c.span fun _ => true).2 else c
    if c.rest.head?.any isBreak then
      skipGaps fuel { l with cursor := c.skipBreak, keyAllowed := l.keyAllowed || !l.inFlow }
    else { l with cursor := c }

/-! ## Directives -/

/-- A number of at most nine digits, and the place after it. -/
def number? (c : Cursor) : Option (Nat × Cursor) :=
  let (digits, c) := c.span Char.isDigit
  if digits.isEmpty || 9 < digits.length then none
  else some (digits.foldl (fun n d => n * 10 + (d.toNat - 48)) 0, c)

/-- The version that a directive declares. -/
def version? (c : Cursor) : Option (Token × Cursor) := do
  let (major, c) ← number? (c.span isSpace).2
  if c.rest.head? ≠ some '.' then none
  else
    let (minor, c) ← number? (c.skip 1)
    return (.versionDirective major minor, c)

/-- The characters of a tag, without percent signs. -/
def isTagChar (verbatim : Bool) (c : Char) : Bool :=
  isNameChar c || ";/?:@&=+$.!~*'()".toList.contains c || (verbatim && ",[]".toList.contains c)

/-- The bytes that percent escapes stand for, one after the other. -/
def percentBytes : List Char → List UInt8 × List Char
  | '%' :: a :: b :: rest =>
    match hexValue? a, hexValue? b with
    | some x, some y =>
      let (bytes, rest) := percentBytes rest
      (UInt8.ofNat (16 * x + y) :: bytes, rest)
    | _, _ => ([], '%' :: a :: b :: rest)
  | rest => ([], rest)

/-- The text of a tag, and what follows it. -/
def tagText? (verbatim : Bool) : Nat → List Char → Option (List Char × List Char)
  | 0, _ => none
  | fuel + 1, s =>
    match s with
    | [] => some ([], [])
    | x :: rest =>
      if x = '%' then
        let (bytes, after) := percentBytes (x :: rest)
        if bytes.isEmpty then none
        else do
          let text ← Text.decode? bytes
          let (more, after) ← tagText? verbatim fuel after
          return (text ++ more, after)
      else if isTagChar verbatim x then
        (tagText? verbatim fuel rest).map fun (more, after) => (x :: more, after)
      else some ([], x :: rest)

/-- The text of a tag at a place, and the place after it. -/
def tagTextAt? (verbatim : Bool) (c : Cursor) : Option (List Char × Cursor) :=
  (tagText? verbatim (c.rest.length + 1) c.rest).map fun (text, after) =>
    (text, c.skip (c.rest.length - after.length))

/-- The handle of a tag: an exclamation mark, a name, and perhaps another
    mark; in a directive a name has to have both. -/
def handle? (inDirective : Bool) (c : Cursor) : Option (List Char × Cursor) :=
  if c.rest.head? ≠ some '!' then none
  else
    let (name, after) := (c.skip 1).span isNameChar
    if after.rest.head? = some '!' then some ('!' :: name ++ ['!'], after.skip 1)
    else if inDirective && !name.isEmpty then none
    else some ('!' :: name, after)

/-- What a directive says that a handle stands for. -/
def tagMeaning? (c : Cursor) : Option (Token × Cursor) := do
  let (handle, c) ← handle? true (c.span isSpace).2
  if !(c.rest.head?.any isSpace) then none
  else
    let (meaning, c) ← tagTextAt? true (c.span isSpace).2
    if meaning.isEmpty || !c.atGap then none
    else return (.tagDirective (String.ofList handle) (String.ofList meaning), c)

/-- A directive from its percent sign on. -/
def directive? (c : Cursor) : Option (Token × Cursor) := do
  let (name, c) := (c.skip 1).span isNameChar
  if name.isEmpty || !c.atGap then none
  else
    let (t, c) ←
      if name = "YAML".toList then version? c
      else if name = "TAG".toList then tagMeaning? c
      else none
    let c := c.skipToLineEnd
    if c.atLineEnd then return (t, c.skipBreak) else none

/-! ## Names and tags -/

/-- The name of an anchor or alias after its mark. -/
def name? (c : Cursor) : Option (String × Cursor) :=
  let (name, c) := (c.skip 1).span isNameChar
  if name.isEmpty then none
  else if c.atGap || (c.rest.head?.any fun x => "?:,]\x7d%@`".toList.contains x) then
    some (String.ofList name, c)
  else none

/-- A tag: its handle and its suffix.  Without a handle the suffix is the whole
    tag. -/
def tag? (inFlow : Bool) (c : Cursor) : Option (Token × Cursor) := do
  let (handle, suffix, c) ←
    if (c.rest.drop 1).head? = some '<' then do
      let (text, c) ← tagTextAt? true (c.skip 2)
      if text.isEmpty || c.rest.head? ≠ some '>' then none
      else some ([], text, c.skip 1)
    else do
      let (handle, after) ← handle? false c
      if 1 < handle.length && handle.getLast? = some '!' then
        let (text, c) ← tagTextAt? false after
        if text.isEmpty then none else some (handle, text, c)
      else
        let (text, c) ← tagTextAt? false after
        let suffix := handle.drop 1 ++ text
        if suffix.isEmpty then some ([], ['!'], c) else some (['!'], suffix, c)
  if c.atGap || (inFlow && c.rest.head? = some ',') then
    return (.tag (String.ofList handle) (String.ofList suffix), c)
  else none

/-! ## Tokens -/

/-- The end of the text. -/
def endStream? (l : Lexer) : Option Lexer := do
  let c := l.cursor
  let l := { l with cursor := if c.column = 0 then c else { c with column := 0, line := c.line + 1 } }
  let l ← (l.closeBlocks (-1)).dropCandidate?
  return l.push .streamEnd

/-- A directive. -/
def takeDirective? (l : Lexer) : Option Lexer := do
  let l ← (l.closeBlocks (-1)).dropCandidate?
  let (t, c) ← directive? l.cursor
  return { (l.allowKey false).push t with cursor := c }

/-- A marker of three characters. -/
def takeMarker? (l : Lexer) (t : Token) : Option Lexer := do
  let l ← (l.closeBlocks (-1)).dropCandidate?
  return ((l.allowKey false).skip 3).push t

/-- The start of a flow collection, which may itself be a key. -/
def openFlow? (l : Lexer) (t : Token) : Option Lexer := do
  let l ← l.saveCandidate?
  return (({ l with candidates := none :: l.candidates }.allowKey true).skip 1).push t

/-- The end of a flow collection. -/
def closeFlow? (l : Lexer) (t : Token) : Option Lexer := do
  let l ← l.dropCandidate?
  let l := if l.inFlow then { l with candidates := l.candidates.drop 1 } else l
  return ((l.allowKey false).skip 1).push t

/-- The comma of a flow collection. -/
def takeComma? (l : Lexer) : Option Lexer := do
  let l ← l.dropCandidate?
  return ((l.allowKey true).skip 1).push .flowEntry

/-- The mark of an entry of a block sequence. -/
def takeDash? (l : Lexer) : Option Lexer := do
  if !l.inFlow && !l.keyAllowed then none
  else
    let l := l.openBlock l.cursor.column l.tokens.length .blockSequenceStart
    let l ← l.dropCandidate?
    return ((l.allowKey true).skip 1).push .blockEntry

/-- The mark of a key. -/
def takeKeyMark? (l : Lexer) : Option Lexer := do
  if !l.inFlow && !l.keyAllowed then none
  else
    let l := l.openBlock l.cursor.column l.tokens.length .blockMappingStart
    let l ← l.dropCandidate?
    return ((l.allowKey !l.inFlow).skip 1).push .key

/-- The mark of a value: the candidate before it is a key. -/
def takeValueMark? (l : Lexer) : Option Lexer :=
  match l.candidates.head?.join with
  | some k =>
    let l := (l.insertAt k.number .key).openBlock k.column k.number .blockMappingStart
    some ((((l.setCandidate none).allowKey false).skip 1).push .value)
  | none =>
    if !l.inFlow && !l.keyAllowed then none
    else
      let l := l.openBlock l.cursor.column l.tokens.length .blockMappingStart
      some (((l.allowKey !l.inFlow).skip 1).push .value)

/-- An anchor or alias. -/
def takeName? (l : Lexer) (t : String → Token) : Option Lexer := do
  let l ← l.saveCandidate?
  let (name, c) ← name? l.cursor
  return { (l.allowKey false).push (t name) with cursor := c }

/-- A tag. -/
def takeTag? (l : Lexer) : Option Lexer := do
  let l ← l.saveCandidate?
  let (t, c) ← tag? l.inFlow l.cursor
  return { (l.allowKey false).push t with cursor := c }

/-- A block scalar. -/
def takeBlockScalar? (l : Lexer) (style : ScalarStyle) : Option Lexer := do
  let l ← l.dropCandidate?
  let (text, c) ← blockScalar? (style == .literal) l.indent l.cursor
  return { (l.allowKey true).push (.scalar style text) with cursor := c }

/-- A quoted scalar. -/
def takeQuoted? (l : Lexer) (quote : Char) (style : ScalarStyle) : Option Lexer := do
  let l ← l.saveCandidate?
  let (text, c) ← quotedScalar? quote l.cursor
  return { (l.allowKey false).push (.scalar style text) with cursor := c }

/-- A plain scalar; after one that goes over its line a key may begin. -/
def takePlain? (l : Lexer) : Option Lexer := do
  let l ← l.saveCandidate?
  let (text, broken, c) ← plainScalar? l.inFlow (l.indent + 1) l.cursor
  return { (l.allowKey broken).push (.scalar .plain text) with cursor := c }

/-- The characters with a meaning at the beginning of a token. -/
def marks : List Char := "-?:,[]\x7b\x7d#&*!|>'\"%@`".toList

/-- A plain scalar begins with the characters `x` and `rest`. -/
def startsPlain (inFlow : Bool) (x : Char) (rest : List Char) : Bool :=
  !(isGap x || marks.contains x) || (x == '-' && !(rest.head?.any isSpace)) ||
    (!inFlow && (x == '?' || x == ':') && !endsWord rest)

/-- Reads the next token. -/
def step? (l : Lexer) : Option Lexer := do
  let l := l.skipGaps (l.cursor.rest.length + 1)
  let l ← l.dropStale?
  let l := l.closeBlocks l.cursor.column
  match l.cursor.rest with
  | [] => l.endStream?
  | x :: rest =>
    if l.cursor.column = 0 ∧ x = '%' then l.takeDirective?
    else if l.cursor.atMarker then
      l.takeMarker? (if x = '-' then .documentStart else .documentEnd)
    else if x = '[' then l.openFlow? .flowSequenceStart
    else if x = '{' then l.openFlow? .flowMappingStart
    else if x = ']' then l.closeFlow? .flowSequenceEnd
    else if x = '}' then l.closeFlow? .flowMappingEnd
    else if x = ',' then l.takeComma?
    else if x = '-' ∧ endsWord rest then l.takeDash?
    else if x = '?' ∧ (l.inFlow ∨ endsWord rest) then l.takeKeyMark?
    else if x = ':' ∧ (l.inFlow ∨ endsWord rest) then l.takeValueMark?
    else if x = '*' then l.takeName? .alias
    else if x = '&' then l.takeName? .anchor
    else if x = '!' then l.takeTag?
    else if x = '|' ∧ !l.inFlow then l.takeBlockScalar? .literal
    else if x = '>' ∧ !l.inFlow then l.takeBlockScalar? .folded
    else if x = '\x27' then l.takeQuoted? '\x27' .singleQuoted
    else if x = '"' then l.takeQuoted? '"' .doubleQuoted
    else if startsPlain l.inFlow x rest then l.takePlain?
    else none

/-- Reads tokens up to the end of the text. -/
def run? : Nat → Lexer → Option (List Token)
  | 0, _ => none
  | fuel + 1, l => do
    let l ← l.step?
    if l.tokens.getLast? = some .streamEnd then return l.tokens else run? fuel l

end Lexer

/-- The tokens of a text.  Every step but the last one takes a character. -/
def tokens? (s : List Char) : Option (List Token) :=
  if s.all isAllowed then Lexer.run? (s.length + 2) { cursor := .start s } else none

end Yaml

end InfraEvidence
