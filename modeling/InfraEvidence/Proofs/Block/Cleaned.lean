/-
  InfraEvidence — what cleaning a value leaves of it.

  Cleaning looks at characters one by one, but a value can be cut out of the text
  by byte offsets as well.

  * `commentOffset_eq`: the offset of a comment is the length of the text before it;
  * `isBetween_eq`, `slice?_between`: a value that begins and ends with a quote has
    two of them, and can be cut behind the one and before the other;
  * `slicedValue?`, `slicedValue?_eq`: so every value can be cut out by byte offsets,
    and is the same;
  * `cleanValue_exact`: **comments leave values alone, and quotes protect them.**
-/
import InfraEvidence.Control.AllowList
import InfraEvidence.Proofs.Block.Value
import InfraEvidence.Proofs.Text.Slice

namespace InfraEvidence

open Text

/-! ## The offset of a comment -/

/-- The byte offset where the comment begins, or where the text ends if there is
    none.  The text itself begins at the offset `i`, within the quote `quote`. -/
def commentOffset : Nat → Option Char → List Char → Nat
  | i, _, [] => i
  | i, quote, c :: s =>
    if quote = none ∧ c = '#' then i
    else commentOffset (i + c.utf8Size) (quoteAfter quote c) s

theorem utf8ByteSize_cons (c : Char) (s : List Char) :
    (String.ofList (c :: s)).utf8ByteSize = c.utf8Size + (String.ofList s).utf8ByteSize := by
  rw [String.ofList_cons, String.utf8ByteSize_append, String.utf8ByteSize_singleton]

theorem utf8ByteSize_singleton (c : Char) : (String.ofList [c]).utf8ByteSize = c.utf8Size := by
  rw [← String.singleton_eq_ofList, String.utf8ByteSize_singleton]

theorem commentOffset_eq (i : Nat) (quote : Option Char) (s : List Char) :
    commentOffset i quote s = i + (String.ofList (cutComment quote s)).utf8ByteSize := by
  induction s generalizing i quote with
  | nil => cases quote <;> rfl
  | cons c s ih =>
    rw [commentOffset, cutComment_cons]
    split
    · rfl
    · rw [ih, utf8ByteSize_cons, Nat.add_assoc]

/-- The text before a comment can be cut off at the offset of the comment. -/
theorem slice?_commentOffset (rhs : String) :
    slice? rhs 0 (commentOffset 0 none rhs.toList) =
      some (String.ofList (cutComment none rhs.toList)) := by
  obtain ⟨comment, hcomment⟩ := prefix_cutComment none rhs.toList
  refine slice?_eq_some_iff.2 ⟨"", String.ofList comment, ?_, rfl, ?_⟩
  · rw [String.empty_append, ← String.ofList_append, hcomment, String.ofList_toList]
  · rw [commentOffset_eq, Nat.zero_add, String.empty_append]

/-! ## The offsets of quotes -/

/-- A value of two bytes or more begins and ends with the quote `q`. -/
def isBetween (q : Char) (value : String) : Bool :=
  decide (2 ≤ value.utf8ByteSize) && value.startsWith q && value.endsWith q

theorem utf8ByteSize_between {q : Char} (hq : q.utf8Size = 1) (inner : List Char) :
    (String.ofList (q :: (inner ++ [q]))).utf8ByteSize =
      1 + (String.ofList inner).utf8ByteSize + 1 := by
  rw [utf8ByteSize_cons, String.ofList_append, String.utf8ByteSize_append, utf8ByteSize_singleton,
    hq, Nat.add_assoc]

/-- A quote alone is one byte, so the quotes at both ends are two. -/
theorem isBetween_eq {q : Char} (hq : q.utf8Size = 1) (value : String) :
    isBetween q value = (unquote? q value.toList).isSome := by
  obtain ⟨s, rfl⟩ := value.exists_eq_ofList
  rw [Bool.eq_iff_iff, Option.isSome_iff_exists, isBetween, String.startsWith_char_eq_head?,
    String.endsWith_char_eq_getLast?, String.toList_ofList]
  simp only [Bool.and_eq_true, decide_eq_true_eq, beq_iff_eq, unquote?_eq_some_iff]
  constructor
  · rintro ⟨⟨hsize, hhead⟩, hlast⟩
    obtain ⟨rest, rfl⟩ := List.head?_eq_some_iff.1 hhead
    obtain ⟨front, hfront⟩ := List.getLast?_eq_some_iff.1 hlast
    cases front with
    | nil =>
      -- one quote would be both the first and the last character
      obtain rfl : rest = [] := (List.cons.inj hfront).2
      rw [utf8ByteSize_singleton, hq] at hsize
      exact absurd hsize (by decide)
    | cons c inner => exact ⟨inner, congrArg (q :: ·) (List.cons.inj hfront).2⟩
  · rintro ⟨inner, rfl⟩
    rw [utf8ByteSize_between hq]
    exact ⟨⟨by omega, rfl⟩, List.getLast?_eq_some_iff.2 ⟨q :: inner, rfl⟩⟩

theorem slice?_between {q : Char} (hq : q.utf8Size = 1) {value : String} {inner : List Char}
    (h : value.toList = q :: (inner ++ [q])) :
    slice? value 1 (value.utf8ByteSize - 1) = some (String.ofList inner) := by
  obtain rfl : value = String.ofList (q :: (inner ++ [q])) := by rw [← h, String.ofList_toList]
  have hsingle : (String.ofList [q]).utf8ByteSize = 1 := (utf8ByteSize_singleton q).trans hq
  refine slice?_eq_some_iff.2 ⟨String.ofList [q], String.ofList [q], ?_, hsingle.symm, ?_⟩
  · rw [← String.ofList_append, ← String.ofList_append, List.append_assoc, List.singleton_append]
  · rw [utf8ByteSize_between hq, Nat.add_sub_cancel, String.utf8ByteSize_append, hsingle]

/-- A value without the quotes around it, which are cut off by byte offsets. -/
def slicedQuotes? (value : String) : Option String :=
  if isBetween '"' value || isBetween '\x27' value then slice? value 1 (value.utf8ByteSize - 1)
  else some value

theorem slicedQuotes?_eq (value : String) :
    slicedQuotes? value = some (String.ofList (stripQuotes value.toList)) := by
  have hdouble := isBetween_eq (q := '"') rfl value
  have hsingle := isBetween_eq (q := '\x27') rfl value
  rw [slicedQuotes?, hdouble, hsingle, stripQuotes]
  cases h : unquote? '"' value.toList with
  | some inner => exact slice?_between rfl (unquote?_eq_some_iff.1 h)
  | none =>
    cases h' : unquote? '\x27' value.toList with
    | some inner => exact slice?_between rfl (unquote?_eq_some_iff.1 h')
    | none => exact congrArg some (String.ofList_toList).symm

/-! ## Values -/

/-- The value that the text behind an equals sign stands for, cut out by byte
    offsets.  There is none if one of the two cuts is not possible. -/
def slicedValue? (rhs : String) : Option String := do
  let content ← slice? rhs 0 (commentOffset 0 none rhs.toList)
  slicedQuotes? (trimmed content)

theorem slicedValue?_eq (rhs : String) :
    slicedValue? rhs = some (String.ofList (cleanValue rhs.toList)) := by
  rw [slicedValue?, slice?_commentOffset, Option.bind_eq_bind, Option.bind_some, slicedQuotes?_eq,
    trimmed, String.toList_ofList, String.toList_ofList, cleanValue]

/-- **Comments leave values alone, and quotes protect them.**  A comment behind
    closed quotes changes no value; a value in quotes of either kind is what stands
    between them, whatever that is but the same quote; and every value can be cut
    out of the text at boundaries of characters. -/
theorem cleanValue_exact :
    (∀ rhs comment : List Char, openQuote rhs = none →
      cleanValue (rhs ++ '#' :: comment) = cleanValue rhs) ∧
    (∀ (q : Char) (before s after : List Char), q = '"' ∨ q = '\x27' →
      allBlank before = true → allBlank after = true → q ∉ s →
      cleanValue (before ++ q :: (s ++ q :: after)) = s) ∧
    (∀ rhs : String, slicedValue? rhs = some (String.ofList (cleanValue rhs.toList))) := by
  refine ⟨fun rhs comment h => ?_, fun q before s after hq hbefore hafter hs => ?_,
    slicedValue?_eq⟩
  · rw [cleanValue, cutComment_comment h, cleanValue]
  · refine cleanValue_between hq hbefore hs ?_
    have hcut := cutComment_blanks hafter []
    rw [List.append_nil] at hcut
    rw [hcut, cutComment, List.append_nil]
    exact trimEnd_eq_nil_iff.2 hafter

/-- A comment with an apostrophe behind a value with a `#`, and a value in single
    quotes with double ones in it and a character of two bytes. -/
theorem cleanValue_exact_awkward :
    let rhs := " \"it's #1\"\t".toList
    let comment := " it's \"ours".toList
    let value := " é \"#\" ".toList
    openQuote rhs = none ∧ cleanValue (rhs ++ '#' :: comment) = "it's #1".toList ∧
      allBlank ['\u2003'] = true ∧ allBlank ['\t'] = true ∧ '\x27' ∉ value ∧
      cleanValue (['\u2003'] ++ '\x27' :: (value ++ '\x27' :: ['\t'])) = value ∧
      slicedValue? "\u2003' é \"#\" '\t# é" = some " é \"#\" " := by
  intro rhs comment value
  have hrhs : openQuote rhs = none := by decide
  have hbefore : allBlank ['\u2003'] = true := by decide
  have hafter : allBlank ['\t'] = true := by decide
  have hvalue : '\x27' ∉ value := by decide
  obtain ⟨hcomment, hquotes, hslices⟩ := cleanValue_exact
  refine ⟨hrhs, ?_, hbefore, hafter, hvalue,
    hquotes _ _ _ _ (Or.inr rfl) hbefore hafter hvalue, ?_⟩
  · rw [hcomment rhs comment hrhs]
    decide
  · rw [hslices]
    decide +kernel

end InfraEvidence
