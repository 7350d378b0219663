/-
  InfraEvidence — a place in a YAML text.

  * `Yaml.Cursor`: what remains of a text, with the number of characters, lines
    and columns before it;
  * `isSpace`, `isBreak`, `endsWord`: the classes of characters that the
    syntax is made of;
  * `Cursor.span`: the longest run of a class that has no line breaks;
  * `Cursor.skipBreak`, `breakText`: a line break, and what it stands for;
  * `isAllowed`: the characters that a YAML text may hold.
-/
namespace InfraEvidence

namespace Yaml

/-- A place in a text. -/
structure Cursor where
  /-- What remains -/
  rest : List Char
  /-- The number of characters before -/
  index : Nat
  /-- The number of lines before -/
  line : Nat
  /-- The number of characters before on the same line -/
  column : Nat

/-- The characters that a text may hold. -/
def isAllowed (c : Char) : Bool :=
  let n := c.toNat
  n == 0x9 || n == 0xA || n == 0xD || (0x20 ≤ n && n ≤ 0x7E) || n == 0x85 ||
    (0xA0 ≤ n && n ≤ 0xFFFD && n != 0xFEFF) || 0x10000 ≤ n

/-- A blank within a line. -/
def isSpace (c : Char) : Bool := c == ' ' || c == '\t'

/-- A character that ends a line. -/
def isBreak (c : Char) : Bool := [0xA, 0xD, 0x85, 0x2028, 0x2029].contains c.toNat

/-- A character that separates words. -/
def isGap (c : Char) : Bool := isSpace c || isBreak c

/-- The text is at its end, or at a character that separates words. -/
def endsWord (s : List Char) : Bool := s.head?.all isGap

/-- A letter, a digit, an underscore or a hyphen. -/
def isNameChar (c : Char) : Bool := c.isAlphanum || c == '_' || c == '-'

namespace Cursor

/-- The beginning of a text. -/
def start (s : List Char) : Cursor := ⟨s, 0, 0, 0⟩

/-- After `n` characters of the same line. -/
def skip (c : Cursor) (n : Nat) : Cursor := ⟨c.rest.drop n, c.index + n, c.line, c.column + n⟩

/-- The longest run of characters that `p` admits, none of which ends a line,
    and the place after it. -/
def span (c : Cursor) (p : Char → Bool) : List Char × Cursor :=
  let run := c.rest.takeWhile fun x => p x && !isBreak x
  (run, c.skip run.length)

/-- After a line break, if there is one. -/
def skipBreak (c : Cursor) : Cursor :=
  match c.rest with
  | '\r' :: '\n' :: rest => ⟨rest, c.index + 2, c.line + 1, 0⟩
  | x :: rest => if isBreak x then ⟨rest, c.index + 1, c.line + 1, 0⟩ else c
  | [] => c

/-- The text that a line break at the place stands for. -/
def breakText (c : Cursor) : List Char :=
  match c.rest.head? with
  | some x => if !isBreak x then [] else if x.toNat < 0x100 then ['\n'] else [x]
  | none => []

/-- The next character separates words, or there is none. -/
def atGap (c : Cursor) : Bool := endsWord c.rest

/-- The next character ends the line, or there is none. -/
def atLineEnd (c : Cursor) : Bool := c.rest.head?.all isBreak

/-- A marker of three characters that begins or ends a document. -/
def atMarker (c : Cursor) : Bool :=
  c.column == 0 &&
    ("---".toList.isPrefixOf c.rest || "...".toList.isPrefixOf c.rest) && endsWord (c.rest.drop 3)

/-- After the blanks and a comment that end a line. -/
def skipToLineEnd (c : Cursor) : Cursor :=
  let c := (c.span isSpace).2
  if c.rest.head? = some '#' then (c.span fun _ => true).2 else c

end Cursor

end Yaml

end InfraEvidence
