/-
  InfraEvidence — numbers given as texts.

  * `Number.natural?`: digits after at most one plus sign, below `2 ^ 64`;
  * `Number.real?`: a floating-point number: a decimal with an optional
    exponent, or one of the words for infinity and for no number, in any case,
    after an optional sign.  The result is the nearest number.
-/
import InfraEvidence.Text.Lowercase

namespace InfraEvidence

namespace Number

/-- The number that decimal digits denote. -/
def ofDigits (digits : List Char) : Nat := digits.foldl (fun n c => n * 10 + (c.toNat - 48)) 0

/-- A natural number below `2 ^ 64`. -/
def natural? (s : String) : Option Nat :=
  let digits := match s.toList with
    | '+' :: rest => rest
    | cs => cs
  if digits.isEmpty || !digits.all Char.isDigit then none
  else if ofDigits digits < UInt64.size then some (ofDigits digits) else none

/-- A text without the sign before it, and whether that is a minus. -/
def sign : List Char → Bool × List Char
  | '-' :: s => (true, s)
  | '+' :: s => (false, s)
  | s => (false, s)

/-- The exponent after the digits of a decimal: nothing, or a mark and an
    integer. -/
def exponent? : List Char → Option Int
  | [] => some 0
  | c :: s =>
    let (negative, digits) := sign s
    if (c = 'e' ∨ c = 'E') ∧ !digits.isEmpty ∧ digits.all Char.isDigit then
      some (if negative then -(ofDigits digits : Int) else ofDigits digits)
    else none

/-- The number nearest to `digits · 10 ^ e`, where `digits` has `count` digits
    without leading zeros.  Far from all numbers, it is infinity or zero. -/
def nearest (digits count : Nat) (e : Int) : Float :=
  if digits = 0 ∨ e + count < -400 then 0.0
  else if 400 < e + count then 1.0 / 0.0
  else if 0 ≤ e then Float.ofScientific digits false e.toNat
  else Float.ofScientific digits true (-e).toNat

/-- The decimal without a sign that a text is. -/
def decimal? (s : List Char) : Option Float := do
  let whole := s.takeWhile Char.isDigit
  let rest := s.dropWhile Char.isDigit
  let (fraction, rest) := match rest with
    | '.' :: r => (r.takeWhile Char.isDigit, r.dropWhile Char.isDigit)
    | r => ([], r)
  if whole.isEmpty && fraction.isEmpty then none
  else
    let e ← exponent? rest
    let digits := (whole ++ fraction).dropWhile (· == '0')
    return nearest (ofDigits digits) digits.length (e - fraction.length)

/-- The words for infinity and for no number. -/
def word? (s : List Char) : Option Float :=
  match String.ofList (Text.asciiLower s) with
  | "inf" | "infinity" => some (1.0 / 0.0)
  | "nan" => some (0.0 / 0.0)
  | _ => none

/-- A floating-point number. -/
def real? (s : String) : Option Float := do
  let (negative, rest) := sign s.toList
  let x ← (word? rest).or (decimal? rest)
  return if negative then -x else x

end Number

end InfraEvidence
