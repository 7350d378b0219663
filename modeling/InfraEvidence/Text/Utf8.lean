/-
  InfraEvidence — texts as bytes.

  * `decode?`: the text that a sequence of bytes encodes in UTF-8.  Overlong
    forms, surrogates, code points above `U+10FFFF` and incomplete sequences
    encode nothing;
  * `encode`: the bytes of a text;
  * `decodeLines?`: the lines of a sequence of bytes, each decoded by itself.
-/
import InfraEvidence.Text.Lines

namespace InfraEvidence.Text

/-- The six bits that a continuation byte carries. -/
def tailBits? (b : UInt8) : Option Nat :=
  if 0x80 ≤ b.toNat ∧ b.toNat < 0xC0 then some (b.toNat - 0x80) else none

/-- The character with the code point `n`, which is at least `low` in its
    shortest form. -/
def codePoint? (low n : Nat) : Option Char :=
  if low ≤ n ∧ n.isValidChar then some (Char.ofNat n) else none

/-- The text that a sequence of bytes encodes. -/
def decode? : List UInt8 → Option (List Char)
  | [] => some []
  | b :: rest =>
    let lead := b.toNat
    if lead < 0x80 then (decode? rest).map (Char.ofNat lead :: ·)
    else if 0xC0 ≤ lead ∧ lead < 0xE0 then
      match rest with
      | b₁ :: rest => do
        let c ← codePoint? 0x80 ((lead - 0xC0) * 64 + (← tailBits? b₁))
        return c :: (← decode? rest)
      | _ => none
    else if 0xE0 ≤ lead ∧ lead < 0xF0 then
      match rest with
      | b₁ :: b₂ :: rest => do
        let c ← codePoint? 0x800
          (((lead - 0xE0) * 64 + (← tailBits? b₁)) * 64 + (← tailBits? b₂))
        return c :: (← decode? rest)
      | _ => none
    else if 0xF0 ≤ lead ∧ lead < 0xF8 then
      match rest with
      | b₁ :: b₂ :: b₃ :: rest => do
        let c ← codePoint? 0x10000
          ((((lead - 0xF0) * 64 + (← tailBits? b₁)) * 64 + (← tailBits? b₂)) * 64 +
            (← tailBits? b₃))
        return c :: (← decode? rest)
      | _ => none
    else none

/-- The bytes of a text. -/
def encode (s : List Char) : List UInt8 := s.flatMap String.utf8EncodeChar

/-- The lines of a sequence of bytes, if each of them encodes a text. -/
def decodeLines? (bs : List UInt8) : Option (List (List Char)) := (byteLines bs).mapM decode?

end InfraEvidence.Text
