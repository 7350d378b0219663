/-
  InfraEvidence — the tokens of structured values.

  * `Json.Numeral.read?`: a number, as it is spelled: a sign, a whole part
    without leading zeros, a fraction and an exponent;
  * `Json.unescaped?`: the characters of a text from what stands between its
    quotes.  Two escapes may make one character, a control character must be
    escaped;
  * `Json.Lexer.step`: the lexer takes one character after the other;
    `Json.tokens?` is its run;
  * `Json.Yields`: what a lexer reads from some characters does not depend on
    the tokens before them.
-/
import InfraEvidence.Number.Read
import InfraEvidence.Report.JsonValue
import InfraEvidence.Proofs.Number.Written
import Mathlib.Data.List.Basic
import Mathlib.Data.List.TakeWhile
import Mathlib.Tactic.IntervalCases

namespace InfraEvidence

namespace Json

section
variable {α β : Type} {f : β → α → Option β} {b b' : β}

theorem foldlM_cons_eq {a : α} (h : f b a = some b') (as : List α) :
    (a :: as).foldlM f b = as.foldlM f b' := by
  rw [List.foldlM_cons, h]
  rfl

theorem foldlM_append_eq {as : List α} (h : as.foldlM f b = some b') (bs : List α) :
    (as ++ bs).foldlM f b = bs.foldlM f b' := by
  rw [List.foldlM_append, h]
  rfl

end

/-! ## Numbers -/

/-- A number as it is spelled. -/
structure Numeral where
  isNegative : Bool
  /-- The part before the point -/
  whole : Nat
  /-- The digits after the point, none without a point -/
  fraction : List Char
  /-- The exponent, if there is one -/
  exponent : Option Int
deriving DecidableEq

namespace Numeral

/-- A number without sign, fraction and exponent. -/
def ofNat (n : Nat) : Numeral := ⟨false, n, [], none⟩

/-- The digits at the beginning, at least one, and what comes after them. -/
def digits? (cs : List Char) : Option (List Char × List Char) :=
  if cs.takeWhile Char.isDigit = [] then none
  else some (cs.takeWhile Char.isDigit, cs.dropWhile Char.isDigit)

/-- The whole part, without leading zeros, and what comes after it. -/
def whole? (cs : List Char) : Option (Nat × List Char) := do
  let (digits, rest) ← digits? cs
  if 1 < digits.length ∧ digits.head? = some '0' then none
  else return (Nat.ofDigitChars 10 digits 0, rest)

/-- The digits of the fraction, if a point comes next, and what comes after them. -/
def fraction? : List Char → Option (List Char × List Char)
  | '.' :: cs => digits? cs
  | cs => some ([], cs)

/-- The exponent that comes last, if there is one. -/
def exponent? (cs : List Char) : Option (Option Int) :=
  if cs = [] then some none else (Number.exponent? cs).map some

/-- The number that some characters spell. -/
def read? (cs : List Char) : Option Numeral := do
  let isNegative := cs.head? == some '-'
  let (whole, rest) ← whole? (if isNegative then cs.tail else cs)
  let (fraction, rest) ← fraction? rest
  let exponent ← exponent? rest
  return ⟨isNegative, whole, fraction, exponent⟩

theorem toDigits_head {n : Nat} (hn : n ≠ 0) : (Nat.toDigits 10 n).head? ≠ some '0' := by
  induction n using Nat.strongRecOn with
  | _ n ih =>
    rw [Nat.toDigits_eq_if (by decide)]
    split
    · rw [List.head?_cons, Ne, Option.some_inj, Nat.digitChar_eq_zero]
      exact hn
    · next hten =>
      rw [List.head?_append_of_ne_nil _ Nat.toDigits_ne_nil]
      exact ih (n / 10) (by omega) (by omega)

theorem digits_eq (n : Nat) : JsonValue.digits n = Nat.toDigits 10 n := by
  rw [JsonValue.digits, Nat.toString_eq_ofList_toDigits, String.toList_ofList]

theorem isDigit_of_mem_digits {n : Nat} {c : Char} (h : c ∈ JsonValue.digits n) :
    c.isDigit = true := Number.isDigit_of_mem_toString h

theorem whole?_digits (n : Nat) : whole? (JsonValue.digits n) = some (n, []) := by
  have htake : (JsonValue.digits n).takeWhile Char.isDigit = JsonValue.digits n :=
    List.takeWhile_eq_self_iff.2 fun c hc => isDigit_of_mem_digits hc
  have hdrop : (JsonValue.digits n).dropWhile Char.isDigit = [] :=
    List.dropWhile_eq_nil_iff.2 fun c hc => isDigit_of_mem_digits hc
  have hzero : ¬ (1 < (Nat.toDigits 10 n).length ∧ (Nat.toDigits 10 n).head? = some '0') := by
    rintro ⟨hlength, hhead⟩
    by_cases hn : n = 0
    · subst hn
      simp at hlength
    · exact toDigits_head hn hhead
  rw [whole?, digits?, htake, hdrop, digits_eq, if_neg Nat.toDigits_ne_nil]
  simp [hzero, Nat.ofDigitChars_ten_toDigits]

/-- **The digits of a number are read back.** -/
theorem read?_digits (n : Nat) : read? (JsonValue.digits n) = some (ofNat n) := by
  have hsign : (JsonValue.digits n).head? ≠ some '-' := by
    intro h
    have hdigit := isDigit_of_mem_digits (List.mem_of_mem_head? h)
    simp at hdigit
  simp [read?, hsign, whole?_digits, fraction?, exponent?, ofNat]

end Numeral

/-! ## Texts -/

/-- The number of a digit in base 16. -/
def hex? (c : Char) : Option Nat :=
  if c.isDigit then some (c.toNat - 48)
  else if 'a' ≤ c ∧ c ≤ 'f' then some (c.toNat - 87)
  else if 'A' ≤ c ∧ c ≤ 'F' then some (c.toNat - 55)
  else none

/-- The number of four digits in base 16. -/
def unit? (a b c d : Char) : Option Nat := do
  return 4096 * (← hex? a) + 256 * (← hex? b) + 16 * (← hex? c) + (← hex? d)

/-- The character that an escape of one character stands for. -/
def short? : Char → Option Char
  | '"' => some '"'
  | '\\' => some '\\'
  | '/' => some '/'
  | 'b' => some '\x08'
  | 'f' => some '\x0c'
  | 'n' => some '\n'
  | 'r' => some '\r'
  | 't' => some '\t'
  | _ => none

/-- The characters of a text from what stands between its quotes. -/
def unescaped? : List Char → Option (List Char)
  | [] => some []
  | '\\' :: 'u' :: a :: b :: c :: d :: rest => do
    let high ← unit? a b c d
    if high < 0xD800 ∨ 0xDFFF < high then (unescaped? rest).map (Char.ofNat high :: ·)
    else match rest with
      -- characters above `U+FFFF` are written as two units
      | '\\' :: 'u' :: a' :: b' :: c' :: d' :: rest =>
        let low ← unit? a' b' c' d'
        if high < 0xDC00 ∧ 0xDC00 ≤ low ∧ low ≤ 0xDFFF then
          let code := 0x10000 + 0x400 * (high - 0xD800) + (low - 0xDC00)
          (unescaped? rest).map (Char.ofNat code :: ·)
        else none
      | _ => none
  | '\\' :: c :: rest => do
    let c ← short? c
    (unescaped? rest).map (c :: ·)
  | c :: rest =>
    if 0x20 ≤ c.toNat ∧ c ≠ '"' ∧ c ≠ '\\' then (unescaped? rest).map (c :: ·) else none

theorem hex?_hexDigit {n : Nat} (h : n < 16) : hex? (JsonValue.hexDigit n) = some n := by
  interval_cases n <;> decide

theorem unescaped?_kept {c : Char} (h : 0x20 ≤ c.toNat) (hquote : c ≠ '"') (hslash : c ≠ '\\')
    (rest : List Char) : unescaped? (c :: rest) = (unescaped? rest).map (c :: ·) := by
  rw [unescaped?, if_pos ⟨h, hquote, hslash⟩]
  · exact fun _ _ _ _ _ hc => absurd hc hslash
  · exact fun _ _ hc => absurd hc hslash

theorem unescaped?_short {e c : Char} (h : short? e = some c) (hu : e ≠ 'u') (rest : List Char) :
    unescaped? ('\\' :: e :: rest) = (unescaped? rest).map (c :: ·) := by
  rw [unescaped?, h]
  · rfl
  · exact fun _ _ _ _ _ he => absurd he hu

theorem unescaped?_unit {a b c d : Char} {n : Nat} (h : unit? a b c d = some n) (hn : n < 0xD800)
    (rest : List Char) :
    unescaped? ('\\' :: 'u' :: a :: b :: c :: d :: rest) =
      (unescaped? rest).map (Char.ofNat n :: ·) := by
  rw [unescaped?, h, Option.bind_eq_bind, Option.bind_some, if_pos (Or.inl hn)]

theorem unit?_hexDigit {n : Nat} (h : n < 0x100) :
    unit? '0' '0' (JsonValue.hexDigit (n / 16)) (JsonValue.hexDigit (n % 16)) = some n := by
  have hzero : hex? '0' = some 0 := by decide
  rw [unit?, hzero, hex?_hexDigit (by omega), hex?_hexDigit (by omega)]
  simp only [Option.bind_eq_bind, Option.bind_some, Option.pure_def, Option.some_inj]
  omega

theorem unescaped?_escapeChar (c : Char) (rest : List Char) :
    unescaped? (JsonValue.escapeChar c ++ rest) = (unescaped? rest).map (c :: ·) := by
  -- a character by its number
  have hof : ∀ d : Char, c.toNat = d.toNat → c = d := fun d h => Char.toNat_inj.1 h
  rw [JsonValue.escapeChar]
  split
  · next hc =>
    subst hc
    exact unescaped?_short (by decide) (by decide) rest
  split
  · next hc =>
    subst hc
    exact unescaped?_short (by decide) (by decide) rest
  split
  · next hquote hslash hkept => exact unescaped?_kept hkept hquote hslash rest
  split
  · next hc =>
    rw [hof '\x08' hc]
    exact unescaped?_short (by decide) (by decide) rest
  split
  · next hc =>
    rw [hof '\t' hc]
    exact unescaped?_short (by decide) (by decide) rest
  split
  · next hc =>
    rw [hof '\n' hc]
    exact unescaped?_short (by decide) (by decide) rest
  split
  · next hc =>
    rw [hof '\x0c' hc]
    exact unescaped?_short (by decide) (by decide) rest
  split
  · next hc =>
    rw [hof '\r' hc]
    exact unescaped?_short (by decide) (by decide) rest
  · next hlow _ _ _ _ _ =>
    have hunit := unescaped?_unit (unit?_hexDigit (n := c.toNat) (by omega)) (by omega) rest
    rw [Char.ofNat_toNat] at hunit
    exact hunit

/-- **A text is read back**, whatever its characters are. -/
theorem unescaped?_flatMap (cs : List Char) :
    unescaped? (cs.flatMap JsonValue.escapeChar) = some cs := by
  induction cs with
  | nil => rfl
  | cons c cs ih => rw [List.flatMap_cons, unescaped?_escapeChar, ih, Option.map_some]

example :
    unescaped? ['\\', 'u', 'd', '8', '3', 'd', '\\', 'u', 'D', 'E', '0', '0'] = some ['😀'] := by
  decide

/-! ## Tokens -/

inductive Token where
  | beginList
  | endList
  | beginObject
  | endObject
  | comma
  | colon
  | null
  | bool (b : Bool)
  | number (n : Numeral)
  | text (s : String)
deriving DecidableEq

/-- The token that a character is. -/
def mark? : Char → Option Token
  | '[' => some .beginList
  | ']' => some .endList
  | '{' => some .beginObject
  | '}' => some .endObject
  | ',' => some .comma
  | ':' => some .colon
  | _ => none

/-- A character that stands between tokens. -/
def isBlank (c : Char) : Bool := c == ' ' || c == '\t' || c == '\n' || c == '\r'

/-- A character of a word or a number. -/
def isInner (c : Char) : Bool := !isBlank c && c != '"' && (mark? c).isNone

/-- The token that a word or a number is. -/
def word? (cs : List Char) : Option Token :=
  match String.ofList cs with
  | "null" => some .null
  | "true" => some (.bool true)
  | "false" => some (.bool false)
  | _ => (Numeral.read? cs).map .number

/-- What has been read so far. -/
inductive Lexer where
  /-- Not in a text, with the characters of a word that has begun -/
  | outside (tokens : List Token) (word : List Char)
  /-- In a text, with what it is written as -/
  | inside (tokens : List Token) (written : List Char)
  /-- In a text and after a backslash -/
  | escaping (tokens : List Token) (written : List Char)

namespace Lexer

/-- The tokens with the word at their end, if one has begun. -/
def ended? (ts : List Token) : List Char → Option (List Token)
  | [] => some ts
  | word => (word? word).map (ts ++ [·])

def step : Lexer → Char → Option Lexer
  | outside ts word, c => do
    if isInner c then return outside ts (word ++ [c])
    let ts ← ended? ts word
    if isBlank c then return outside ts []
    if c = '"' then return inside ts []
    (mark? c).map fun t => outside (ts ++ [t]) []
  | inside ts written, c =>
    if c = '"' then (unescaped? written).map fun cs => outside (ts ++ [.text (.ofList cs)]) []
    else if c = '\\' then some (escaping ts written)
    else some (inside ts (written ++ [c]))
  | escaping ts written, c => some (inside ts (written ++ ['\\', c]))

/-- The tokens at the end of the characters. -/
def finish : Lexer → Option (List Token)
  | outside ts word => ended? ts word
  | _ => none

end Lexer

/-- The tokens of some characters. -/
def tokens? (cs : List Char) : Option (List Token) :=
  (cs.foldlM Lexer.step (.outside [] [])).bind Lexer.finish

/-- After any tokens, the characters are read as the tokens `ts`. -/
def Yields (cs : List Char) (ts : List Token) : Prop :=
  ∀ before, ∃ reached word,
    cs.foldlM Lexer.step (.outside before []) = some (.outside reached word) ∧
      Lexer.ended? reached word = some (before ++ ts)

theorem Yields.tokens?_eq {cs : List Char} {ts : List Token} (h : Yields cs ts) :
    tokens? cs = some ts := by
  obtain ⟨reached, word, hrun, hend⟩ := h []
  rw [tokens?, hrun]
  exact hend

theorem yields_nil : Yields [] [] := fun before => ⟨before, [], rfl, by simp [Lexer.ended?]⟩

theorem Yields.blank {cs : List Char} {ts : List Token} {c : Char} (h : Yields cs ts)
    (hc : isBlank c = true) : Yields (c :: cs) ts := by
  intro before
  obtain ⟨reached, word, hrun, hend⟩ := h before
  refine ⟨reached, word, ?_, hend⟩
  have hstep : Lexer.step (.outside before []) c = some (.outside before []) := by
    simp [Lexer.step, isInner, Lexer.ended?, hc]
  rw [foldlM_cons_eq hstep, hrun]

theorem not_isBlank_of_mark {c : Char} {t : Token} (h : mark? c = some t) : isBlank c = false := by
  unfold mark? at h
  split at h
  all_goals first | rfl | exact absurd h nofun

theorem Yields.mark {cs : List Char} {ts : List Token} {c : Char} {t : Token} (h : Yields cs ts)
    (hc : mark? c = some t) : Yields (c :: cs) (t :: ts) := by
  intro before
  obtain ⟨reached, word, hrun, hend⟩ := h (before ++ [t])
  refine ⟨reached, word, ?_, by simpa using hend⟩
  have hquote : c ≠ '"' := by
    rintro rfl
    exact absurd hc nofun
  have hstep : Lexer.step (.outside before []) c = some (.outside (before ++ [t]) []) := by
    simp [Lexer.step, isInner, Lexer.ended?, hc, hquote, not_isBlank_of_mark hc]
  rw [foldlM_cons_eq hstep, hrun]

/-- A word ends where a character comes that is not part of it. -/
theorem step_ended {before reached : List Token} {word : List Char} {c : Char}
    (h : Lexer.ended? before word = some reached) (hc : isInner c = false) :
    Lexer.step (.outside before word) c = Lexer.step (.outside reached []) c := by
  have hnil : Lexer.ended? reached [] = some reached := rfl
  simp [Lexer.step, hc, h, hnil]

/-- A word does not go on with these characters. -/
def EndsWord (cs : List Char) : Prop := ∀ c ∈ cs.head?, isInner c = false

/-- **What comes after** some characters is read as if it stood alone, unless
    a word goes on with it. -/
theorem Yields.append {cs cs' : List Char} {ts ts' : List Token} (h : Yields cs ts)
    (h' : Yields cs' ts') (hc : EndsWord cs') : Yields (cs ++ cs') (ts ++ ts') := by
  intro before
  obtain ⟨reached, word, hrun, hend⟩ := h before
  obtain ⟨reached', word', hrun', hend'⟩ := h' (before ++ ts)
  cases cs' with
  | nil =>
    obtain ⟨rfl, rfl⟩ : before ++ ts = reached' ∧ [] = word' := by simpa using hrun'
    refine ⟨reached, word, by rw [List.append_nil]; exact hrun, ?_⟩
    rw [hend, ← List.append_assoc, ← hend']
    rfl
  | cons c cs' =>
    refine ⟨reached', word', ?_, by rw [hend', List.append_assoc]⟩
    rw [foldlM_append_eq hrun, List.foldlM_cons, step_ended hend (hc c rfl)]
    exact hrun'

theorem isInner_of_isDigit {c : Char} (h : c.isDigit = true) : isInner c = true := by
  have hne : ∀ d : Char, d.isDigit = false → c ≠ d := by
    rintro d hd rfl
    exact absurd h (by rw [hd]; decide)
  have hmark : mark? c = none := by
    unfold mark?
    split
    all_goals first | rfl | exact absurd rfl (hne _ (by decide))
  simp [isInner, isBlank, hmark, hne]

theorem foldlM_inner {cs : List Char} (h : ∀ c ∈ cs, isInner c = true) (before : List Token)
    (word : List Char) :
    cs.foldlM Lexer.step (.outside before word) = some (.outside before (word ++ cs)) := by
  induction cs generalizing word with
  | nil => simp
  | cons c cs ih =>
    have hstep : Lexer.step (.outside before word) c = some (.outside before (word ++ [c])) := by
      simp [Lexer.step, h c List.mem_cons_self]
    rw [foldlM_cons_eq hstep, ih fun d hd => h d (List.mem_cons_of_mem _ hd), List.append_assoc,
      List.singleton_append]

theorem word?_digits (n : Nat) :
    word? (JsonValue.digits n) = some (.number (.ofNat n)) := by
  have hne : ∀ s : String, (∃ c ∈ s.toList, c.isDigit = false) →
      String.ofList (JsonValue.digits n) ≠ s := by
    rintro _ ⟨c, hc, hdigit⟩ rfl
    rw [String.toList_ofList] at hc
    exact absurd (Numeral.isDigit_of_mem_digits hc) (by rw [hdigit]; decide)
  rw [word?]
  split
  · next hs => exact absurd hs (hne _ ⟨'n', by decide⟩)
  · next hs => exact absurd hs (hne _ ⟨'t', by decide⟩)
  · next hs => exact absurd hs (hne _ ⟨'f', by decide⟩)
  · rw [Numeral.read?_digits, Option.map_some]

theorem yields_digits (n : Nat) : Yields (JsonValue.digits n) [.number (.ofNat n)] := by
  intro before
  have hinner : ∀ c ∈ JsonValue.digits n, isInner c = true :=
    fun c hc => isInner_of_isDigit (Numeral.isDigit_of_mem_digits hc)
  refine ⟨before, JsonValue.digits n, foldlM_inner hinner before [], ?_⟩
  have hne : JsonValue.digits n ≠ [] := by
    rw [Numeral.digits_eq]
    exact Nat.toDigits_ne_nil
  rw [Lexer.ended?, word?_digits, Option.map_some]
  exact hne

theorem step_inside {c : Char} (hquote : c ≠ '"') (hslash : c ≠ '\\') (before : List Token)
    (written : List Char) :
    Lexer.step (.inside before written) c = some (.inside before (written ++ [c])) := by
  rw [Lexer.step, if_neg hquote, if_neg hslash]

theorem hexDigit_ne {n : Nat} (h : n < 16) :
    JsonValue.hexDigit n ≠ '"' ∧ JsonValue.hexDigit n ≠ '\\' := by
  interval_cases n <;> decide

/-- No escape ends a text. -/
theorem foldlM_escapeChar (c : Char) (before : List Token) (written : List Char) :
    (JsonValue.escapeChar c).foldlM Lexer.step (.inside before written) =
      some (.inside before (written ++ JsonValue.escapeChar c)) := by
  rw [JsonValue.escapeChar]
  split
  · rfl
  split
  · rfl
  split
  · next hquote hslash _ => simp [step_inside hquote hslash]
  iterate 5
    split
    · rfl
  · next hlow _ _ _ _ _ =>
    have hhigh := hexDigit_ne (n := c.toNat / 16) (by omega)
    have hlast := hexDigit_ne (n := c.toNat % 16) (by omega)
    simp [Lexer.step, hhigh, hlast]

theorem foldlM_flatMap (cs : List Char) (before : List Token) (written : List Char) :
    (cs.flatMap JsonValue.escapeChar).foldlM Lexer.step (.inside before written) =
      some (.inside before (written ++ cs.flatMap JsonValue.escapeChar)) := by
  induction cs generalizing written with
  | nil => simp
  | cons c cs ih =>
    rw [List.flatMap_cons, foldlM_append_eq (foldlM_escapeChar c before written), ih,
      List.append_assoc]

theorem yields_quoted (s : String) : Yields (JsonValue.quoted s) [.text s] := by
  intro before
  refine ⟨before ++ [.text s], [], ?_, rfl⟩
  have hopen : Lexer.step (.outside before []) '"' = some (.inside before []) := rfl
  rw [JsonValue.quoted, List.cons_append, foldlM_cons_eq hopen,
    foldlM_append_eq (foldlM_flatMap s.toList before [])]
  simp [Lexer.step, unescaped?_flatMap]

end Json

end InfraEvidence
