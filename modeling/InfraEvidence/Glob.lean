/-
  InfraEvidence — globs, for resource types and for file names.

  * `Glob.Token`: what a glob is made of.  `?` is any one character, `*` any
    characters, `**` any whole path components, `[ab-d]` and `[!ab-d]` are
    classes; no wildcard stops at a `/`, and letters are compared exactly;
  * `Glob.parse?`: reads a glob, or says where it is malformed and why
    (`GlobError`): a run of three stars, a `**` that is not a whole
    component, a class that is not closed;
  * `Glob.admits`: the glob matches the whole text.

  A wildcard that has passed over the rest of the text leaves the remaining
  tokens to the empty text, so that `a/**` matches `a/b/c`.
-/
namespace InfraEvidence

/-- One item of a class: a character, or a closed range of them. -/
inductive CharItem where
  | one (c : Char)
  | range (low high : Char)
deriving DecidableEq

/-- The item admits the character. -/
def CharItem.admits (c : Char) : CharItem → Bool
  | one d => c == d
  | range low high => low ≤ c && c ≤ high

/-- What is wrong with a glob. -/
inductive GlobFault where
  /-- A run of three or more stars -/
  | starRun
  /-- A `**` beside something other than `/` -/
  | partComponent
  /-- A `[` that opens no class -/
  | openClass
deriving DecidableEq

/-- The fault, in words. -/
def GlobFault.text : GlobFault → String
  | starRun => "wildcards are either regular `*` or recursive `**`"
  | partComponent => "recursive wildcards must form a single path component"
  | openClass => "invalid range pattern"

/-- A fault and the number of characters before it. -/
structure GlobError where
  /-- The position -/
  position : Nat
  /-- The fault -/
  fault : GlobFault
deriving DecidableEq

/-- The message of a malformed glob. -/
def GlobError.message (e : GlobError) : String :=
  "Pattern syntax error near position " ++ toString e.position ++ ": " ++ e.fault.text

namespace Glob

/-- A part of a glob. -/
inductive Token where
  | char (c : Char)
  /-- `?` -/
  | anyChar
  /-- `*` -/
  | anyText
  /-- `**`, with the `/` that follows it -/
  | anyComponents
  /-- `[…]` -/
  | within (items : List CharItem)
  /-- `[!…]` -/
  | except (items : List CharItem)
deriving DecidableEq

end Glob

/-- A glob that has been read. -/
structure Glob where
  /-- The glob as written -/
  text : String
  /-- Its parts, in order -/
  tokens : List Glob.Token
deriving DecidableEq

namespace Glob

/-! ## Reading -/

/-- The items between the brackets of a class. -/
def items : List Char → List CharItem
  | low :: '-' :: high :: rest => .range low high :: items rest
  | c :: rest => .one c :: items rest
  | [] => []

/-- The body of a class up to its closing bracket, and what follows it.  The
    first character of the body may itself be a bracket. -/
def classBody? : List Char → Option (List Char × List Char)
  | [] => none
  | first :: rest =>
    match rest.dropWhile (· != ']') with
    | [] => none
    | _ :: after => some (first :: rest.takeWhile (· != ']'), after)

theorem length_classBody? {s body after : List Char} (h : classBody? s = some (body, after)) :
    after.length < s.length := by
  cases s with
  | nil => simp [classBody?] at h
  | cons c s =>
    simp only [classBody?] at h
    split at h
    · contradiction
    · next hd =>
      simp only [Option.some.injEq, Prod.mk.injEq] at h
      have := (List.dropWhile_sublist (l := s) (· != ']')).length_le
      rw [hd, h.2] at this
      simp only [List.length_cons] at this ⊢
      omega

/-- The tokens with a `**` after them: two neighbours count once, but the
    first token stays by itself. -/
def pushComponents (done : List Token) : List Token :=
  if 1 < done.length ∧ done.head? = some .anyComponents then done else .anyComponents :: done

/-- Reads a glob from the character at `position`, after the tokens `done`
    (the last one first) and the character `before`. -/
def parseFrom (before : Option Char) (position : Nat) (done : List Token) :
    List Char → Except GlobError (List Token)
  | [] => .ok done.reverse
  | '?' :: rest => parseFrom (some '?') (position + 1) (.anyChar :: done) rest
  | '*' :: '*' :: '*' :: _ => .error ⟨position + 2, .starRun⟩
  | '*' :: '*' :: rest =>
    if before = none ∨ before = some '/' then
      match rest with
      | [] => .ok (pushComponents done).reverse
      | c :: rest =>
        if c = '/' then parseFrom (some '/') (position + 3) (pushComponents done) rest
        else .error ⟨position + 2, .partComponent⟩
    else .error ⟨position - 1, .partComponent⟩
  | '*' :: rest => parseFrom (some '*') (position + 1) (.anyText :: done) rest
  | '[' :: '!' :: rest =>
    match h : classBody? rest with
    | none => .error ⟨position, .openClass⟩
    | some (body, after) =>
      have := length_classBody? h
      parseFrom (some ']') (position + body.length + 3) (.except (items body) :: done) after
  | '[' :: rest =>
    match h : classBody? rest with
    | none => .error ⟨position, .openClass⟩
    | some (body, after) =>
      have := length_classBody? h
      parseFrom (some ']') (position + body.length + 2) (.within (items body) :: done) after
  | c :: rest => parseFrom (some c) (position + 1) (.char c :: done) rest
termination_by s => s.length
decreasing_by all_goals simp_all <;> omega

/-- Reads a glob. -/
def parse? (text : String) : Except GlobError Glob :=
  (parseFrom none 0 [] text.toList).map fun tokens => ⟨text, tokens⟩

/-! ## Matching -/

/-- What an attempt to match shows. -/
inductive Verdict where
  /-- The text is matched -/
  | hit
  /-- Not matched from here, perhaps from a later character -/
  | miss
  /-- Not matched from any later character either: the text is too short -/
  | hopeless
deriving DecidableEq

/-- Matches the tokens after a wildcard (`next`) behind each further character,
    or behind each further `/`; at last with nothing left. -/
def matchAfter (next : List Char → Verdict) (afterSlash : Bool) : List Char → Verdict
  | [] => next []
  | c :: s =>
    if afterSlash && c != '/' then matchAfter next afterSlash s
    else
      match next s with
      | .miss => matchAfter next afterSlash s
      | verdict => verdict

/-- Matches one character, then the tokens after it (`next`). -/
def matchOne (next : List Char → Verdict) (admits : Char → Bool) : List Char → Verdict
  | [] => .hopeless
  | c :: s => if admits c then next s else .miss

/-- Matches the tokens against a text. -/
def matchTokens : List Token → List Char → Verdict
  | [], s => if s.isEmpty then .hit else .miss
  | token :: rest, s =>
    match token with
    | .anyText =>
      match matchTokens rest s with
      | .miss => matchAfter (matchTokens rest) false s
      | verdict => verdict
    | .anyComponents =>
      match matchTokens rest s with
      | .miss => matchAfter (matchTokens rest) true s
      | verdict => verdict
    | .char d => matchOne (matchTokens rest) (· == d) s
    | .anyChar => matchOne (matchTokens rest) (fun _ => true) s
    | .within its => matchOne (matchTokens rest) (fun c => its.any (·.admits c)) s
    | .except its => matchOne (matchTokens rest) (fun c => !its.any (·.admits c)) s

/-- The glob matches the whole text. -/
def admits (g : Glob) (s : String) : Bool := matchTokens g.tokens s.toList == .hit

/-- A glob without wildcards and classes matches its own text only. -/
theorem matchTokens_chars (cs s : List Char) :
    matchTokens (cs.map .char) s = .hit ↔ s = cs := by
  induction cs generalizing s with
  | nil => cases s <;> simp [matchTokens]
  | cons c cs ih =>
    cases s with
    | nil => simp [matchTokens, matchOne]
    | cons d s =>
      by_cases h : d = c <;> simp [matchTokens, matchOne, h, ih]

end Glob

end InfraEvidence
