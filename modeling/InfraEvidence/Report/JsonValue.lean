/-
  InfraEvidence — structured values and their written form.

  * `JsonValue`: numbers, texts, lists and objects, the fields of an object
    in the order in which they are written;
  * `JsonValue.quoted`: a text between quotes.  Quotes, backslashes and
    control characters below `U+0020` are escaped, all else is kept;
  * `JsonValue.compact`, `JsonValue.pretty`: the written form on one line, and
    on many lines with two blanks for each level.
-/
namespace InfraEvidence

/-- A structured value. -/
inductive JsonValue where
  | number (n : Nat)
  | text (s : String)
  | list (items : List JsonValue)
  | object (fields : List (String × JsonValue))

namespace JsonValue

/-- The digit of a number below 16. -/
def hexDigit (n : Nat) : Char := if n < 10 then Char.ofNat (48 + n) else Char.ofNat (87 + n)

/-- A character as it is written in a text. -/
def escapeChar (c : Char) : List Char :=
  if c = '"' then ['\\', '"']
  else if c = '\\' then ['\\', '\\']
  else if 0x20 ≤ c.toNat then [c]
  else if c.toNat = 0x08 then ['\\', 'b']
  else if c.toNat = 0x09 then ['\\', 't']
  else if c.toNat = 0x0A then ['\\', 'n']
  else if c.toNat = 0x0C then ['\\', 'f']
  else if c.toNat = 0x0D then ['\\', 'r']
  else ['\\', 'u', '0', '0', hexDigit (c.toNat / 16), hexDigit (c.toNat % 16)]

/-- A text as it is written. -/
def quoted (s : String) : List Char := '"' :: s.toList.flatMap escapeChar ++ ['"']

/-- The digits of a number. -/
def digits (n : Nat) : List Char := (toString n).toList

mutual

/-- The written form on one line. -/
def compact : JsonValue → List Char
  | number n => digits n
  | text s => quoted s
  | list items => '[' :: compactItems true items ++ [']']
  | object fields => '{' :: compactFields true fields ++ ['}']

/-- Items with commas, the first one without. -/
def compactItems (isFirst : Bool) : List JsonValue → List Char
  | [] => []
  | v :: rest => (if isFirst then [] else [',']) ++ compact v ++ compactItems false rest

/-- Fields with commas, the first one without. -/
def compactFields (isFirst : Bool) : List (String × JsonValue) → List Char
  | [] => []
  | (k, v) :: rest =>
    (if isFirst then [] else [',']) ++ quoted k ++ ':' :: compact v ++ compactFields false rest

end

/-- A line feed and the blanks of a level. -/
def newLine (level : Nat) : List Char := '\n' :: List.replicate (2 * level) ' '

mutual

/-- The written form on many lines, at a level. -/
def prettyAt (level : Nat) : JsonValue → List Char
  | number n => digits n
  | text s => quoted s
  | list [] => ['[', ']']
  | list (v :: rest) => '[' :: prettyItems (level + 1) true (v :: rest) ++ newLine level ++ [']']
  | object [] => ['{', '}']
  | object (f :: rest) =>
    '{' :: prettyFields (level + 1) true (f :: rest) ++ newLine level ++ ['}']

/-- Items on lines of their own, with commas. -/
def prettyItems (level : Nat) (isFirst : Bool) : List JsonValue → List Char
  | [] => []
  | v :: rest =>
    (if isFirst then [] else [',']) ++ newLine level ++ prettyAt level v ++
      prettyItems level false rest

/-- Fields on lines of their own, with commas. -/
def prettyFields (level : Nat) (isFirst : Bool) : List (String × JsonValue) → List Char
  | [] => []
  | (k, v) :: rest =>
    (if isFirst then [] else [',']) ++ newLine level ++ quoted k ++ ':' :: ' ' ::
      prettyAt level v ++ prettyFields level false rest

end

/-- The written form on many lines. -/
def pretty (v : JsonValue) : List Char := prettyAt 0 v

/-- The written form, on many lines if `isPretty`. -/
def render (isPretty : Bool) (v : JsonValue) : String :=
  String.ofList (if isPretty then pretty v else compact v)

end JsonValue

end InfraEvidence
