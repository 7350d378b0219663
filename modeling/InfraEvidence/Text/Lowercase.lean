/-
  InfraEvidence — lower case in every script.

  * `lowerChar`: the lower case of one character, alone: one character, but
    for the dotted capital `İ`, which becomes two;
  * `lower`: the lower case of a text.  A capital sigma at the end of a word
    (`isFinalSigma`: a cased character before it and none after it, the
    case-ignorable ones passed over) becomes `ς`, any other one `σ`;
  * `asciiLower`: lower case of the letters `A` to `Z` only.
-/
import InfraEvidence.Text.Blank
import InfraEvidence.Text.CaseTable

namespace InfraEvidence.Text

/-- The lower case of the letters `A` to `Z`; every other character is kept. -/
def asciiLower (s : List Char) : List Char := s.map Char.toLower

/-- The lower case that the table gives to a character, itself without an entry. -/
def tableLower (c : Char) : Char :=
  match lowerRuns.find? fun r => r.first ≤ c.toNat && c.toNat ≤ r.last with
  | some r =>
    if (c.toNat - r.first) % r.step = 0 then Char.ofNat (r.target + (c.toNat - r.first)) else c
  | none => c

/-- The lower case of a character that stands alone. -/
def lowerChar (c : Char) : List Char :=
  if c.toNat < 0x80 then [c.toLower]
  else if c.toNat = 0x130 then ['i', Char.ofNat 0x307]
  else [tableLower c]

/-- A character that has a case. -/
def isCased (c : Char) : Bool :=
  if c.toNat < 0x80 then c.isAlpha else inRanges casedRanges c

/-- A character that the rule of the final sigma passes over. -/
def isCaseIgnorable (c : Char) : Bool :=
  if c.toNat < 0x80 then [0x27, 0x2E, 0x3A, 0x5E, 0x60].contains c.toNat
  else inRanges caseIgnorableRanges c

/-- The nearest character of `s` that is not case-ignorable has a case. -/
def meetsCased (s : List Char) : Bool :=
  match s.dropWhile isCaseIgnorable with
  | [] => false
  | c :: _ => isCased c

/-- A sigma between `before` (nearest first) and `after` ends its word. -/
def isFinalSigma (before after : List Char) : Bool := meetsCased before && !meetsCased after

/-- The lower case of a text that follows `before` (nearest first). -/
def lowerAfter : List Char → List Char → List Char
  | _, [] => []
  | before, c :: rest =>
    (if c.toNat = 0x3A3 then [Char.ofNat (if isFinalSigma before rest then 0x3C2 else 0x3C3)]
      else lowerChar c) ++ lowerAfter (c :: before) rest

/-- The lower case of a text. -/
def lower (s : List Char) : List Char := lowerAfter [] s

/-- An ASCII text is lowered letter by letter. -/
theorem lowerAfter_ascii (before : List Char) {s : List Char} (h : ∀ c ∈ s, c.toNat < 0x80) :
    lowerAfter before s = asciiLower s := by
  induction s generalizing before with
  | nil => rfl
  | cons c s ih =>
    have hc : c.toNat < 0x80 := h c (by simp)
    have hs : ¬ c.toNat = 0x3A3 := by omega
    simp [lowerAfter, lowerChar, hc, hs, asciiLower, ih (c :: before) fun x hx => h x (by simp [hx])]

end InfraEvidence.Text
