/-
  InfraEvidence — references to the blocks of a collection.

  A block is known by its type, a dot and its name, and a name is any text
  without a quote; a reference in a value ends where the identifier behind the
  dot ends.

  * `references`: the references of a text, as its parts have them;
  * `stem`: what a reference spells of a name;
  * `references_target`: the references of a value that refers to a block;
  * `Spelled`: those references are known;
  * `sanitize_keeps_iff`: sanitizing keeps such a value exactly then, and
    always if the name is an identifier;
  * `hyphen_hides_block`: it does not if the name has a hyphen.
-/
import InfraEvidence.Proofs.Reference.Sanitized
import InfraEvidence.Proofs.Scan.Narrowing

namespace InfraEvidence

open Text

theorem Block.toList_canonicalReference (b : Block) :
    b.canonicalReference.toList = b.type.toList ++ '.' :: b.name.toList := by
  simp [canonicalReference]

namespace Reference

/-! ## The references of a text -/

/-- The references of a text that follows a word, or does not. -/
def references (w : Bool) (s : List Char) : List (List Char) :=
  (pieces w s).filterMap fun
    | .reference ref => some ref
    | .plain _ => none

theorem mem_references {w : Bool} {s ref : List Char} :
    ref ∈ references w s ↔ .reference ref ∈ pieces w s := by
  rw [references, List.mem_filterMap]
  constructor
  · rintro ⟨p, hp, h⟩
    cases p with
    | plain c => contradiction
    | reference text => exact Option.some.inj h ▸ hp
  · intro h
    exact ⟨_, h, rfl⟩

theorem references_plain {w : Bool} {c : Char} {s : List Char}
    (h : w = true ∨ start? (c :: s) = none) : references w (c :: s) = references (isWord c) s := by
  rw [references, pieces_plain h]
  rfl

theorem references_reference {s ref rest : List Char} (h : start? s = some (ref, rest)) :
    references false s = ref :: references true rest := by
  rw [references, pieces_reference h]
  rfl

/-- Inside of a word no reference begins. -/
theorem references_word {t : List Char} (ht : ∀ c ∈ t, isWord c = true) (s : List Char) :
    references true (t ++ s) = references true s := by
  induction t with
  | nil => rfl
  | cons c t ih =>
    rw [List.cons_append, references_plain (Or.inl rfl), ht c List.mem_cons_self,
      ih fun x hx => ht x (List.mem_cons_of_mem _ hx)]

/-! ## Behind a type and a dot -/

theorem references_identifier {type name rest : List Char} (htype : IsTarget type)
    (hname : IsIdentifier name) (hrest : ∀ c ∈ rest.head?, isIdentRest c = false) :
    references false (type ++ '.' :: (name ++ rest)) =
      (type ++ '.' :: name) :: references true rest := by
  apply references_reference
  exact start?_eq_some_iff.2 ⟨by simp, ⟨type, name, htype, hname, rfl⟩, hrest⟩

theorem references_no_identifier {type rest : List Char} (htype : IsTarget type)
    (hrest : identifier? rest = none) :
    references false (type ++ '.' :: rest) = references true rest := by
  have hstart : start? (type ++ '.' :: rest) = none := by
    rw [start?, type?_of_isTarget htype]
    simp only [hrest]
  have hfirst : ∀ c ∈ rest.head?, c ∉ ['a', 'g', 'm'] := fun c hc =>
    not_mem_of_isIdentStart (identifier?_eq_none_iff.1 hrest c hc)
  -- the type is read as a word, and the dot ends it
  have hword := htype.forall_isWord
  obtain ⟨c, cs, rfl, -⟩ := htype.head
  rw [List.cons_append] at hstart ⊢
  rw [references_plain (Or.inr hstart), hword c List.mem_cons_self,
    references_word fun d hd => hword d (List.mem_cons_of_mem _ hd),
    references_plain (Or.inl rfl), references, references, pieces_congr hfirst _ true]

/-! ## The value that refers to a block -/

/-- The identifier that a name begins with: what a reference can spell of it. -/
def stem (name : List Char) : List Char := ((identifier? name).map (·.1)).getD []

/-- What a name has behind that identifier. -/
def afterStem (name : List Char) : List Char := ((identifier? name).map (·.2)).getD name

theorem stem_of_isIdentifier {name : List Char} (h : IsIdentifier name) :
    stem name = name ∧ afterStem name = [] := by
  have hi : identifier? name = some (name, []) :=
    identifier?_eq_some_iff.2 ⟨(List.append_nil _).symm, h, by simp⟩
  rw [stem, afterStem, hi]
  exact ⟨rfl, rfl⟩

/-- Nothing, or a dot and a text without references. -/
def IsAttribute (tail : List Char) : Prop :=
  tail = [] ∨ ∃ attr, tail = '.' :: attr ∧ references false attr = []

theorem IsAttribute.head? {tail : List Char} (h : IsAttribute tail) :
    ∀ c ∈ tail.head?, isIdentRest c = false := by
  rcases h with rfl | ⟨attr, rfl, -⟩
  · simp
  · simp only [List.head?_cons, Option.mem_some, forall_eq']
    decide

theorem IsAttribute.references_eq {tail : List Char} (h : IsAttribute tail) :
    references true tail = [] := by
  rcases h with rfl | ⟨attr, rfl, hattr⟩
  · rw [references, pieces]
    rfl
  · rw [references_plain (Or.inl rfl), isWord_dot, hattr]

/-- **The references of a value that refers to a block**: the one that spells
    the stem of its name, and those behind it. -/
theorem references_target {type name tail : List Char} (htype : IsTarget type)
    (htail : ∀ c ∈ tail.head?, isIdentRest c = false) :
    references false (type ++ '.' :: (name ++ tail)) =
      (if stem name = [] then [] else [type ++ '.' :: stem name]) ++
        references true (afterStem name ++ tail) := by
  cases hi : identifier? name with
  | some p =>
    obtain ⟨s, rest⟩ := p
    obtain ⟨rfl, hs, hrest⟩ := identifier?_eq_some_iff.1 hi
    have hnext : ∀ c ∈ (rest ++ tail).head?, isIdentRest c = false := by
      cases rest with
      | nil => exact htail
      | cons c rest => exact hrest
    have hstem : stem (s ++ rest) = s := by rw [stem, hi]; rfl
    have hafter : afterStem (s ++ rest) = rest := by rw [afterStem, hi]; rfl
    rw [hstem, hafter, if_neg hs.ne_nil, List.append_assoc, references_identifier htype hs hnext]
    rfl
  | none =>
    have hnone : identifier? (name ++ tail) = none := by
      rw [identifier?_eq_none_iff] at hi ⊢
      cases name with
      | cons c name => exact hi
      | nil => exact fun c hc => isIdentStart_eq_false (htail c hc)
    have hstem : stem name = [] := by rw [stem, hi]; rfl
    have hafter : afterStem name = name := by rw [afterStem, hi]; rfl
    rw [hstem, hafter, if_pos rfl, List.nil_append, references_no_identifier htype hnone]

/-- The references that a value spells of the name `type.name` and of what
    follows it are known. -/
def Spelled (known : List String) (type name tail : List Char) : Prop :=
  (stem name ≠ [] → String.ofList (type ++ '.' :: stem name) ∈ known) ∧
    ∀ ref ∈ references true (afterStem name ++ tail), String.ofList ref ∈ known

theorem sanitizeValue_target_iff {known : List String} {b : Block}
    (htype : IsTarget b.type.toList) {tail : String}
    (htail : ∀ c ∈ tail.toList.head?, isIdentRest c = false) :
    sanitizeValue known (b.canonicalReference ++ tail) = b.canonicalReference ++ tail ↔
      Spelled known b.type.toList b.name.toList tail.toList := by
  have hlist : (b.canonicalReference ++ tail).toList =
      b.type.toList ++ '.' :: (b.name.toList ++ tail.toList) := by
    rw [String.toList_append, b.toList_canonicalReference, List.append_assoc, List.cons_append]
  rw [sanitizeValue_eq_self_iff, hlist]
  simp only [← mem_references, references_target htype htail, List.forall_mem_append]
  refine and_congr_left' ?_
  by_cases hstem : stem b.name.toList = []
  · simp [hstem]
  · simp [hstem]

theorem spelled_of_isIdentifier {bs : List Block} {b : Block} (hb : b ∈ bs)
    (hname : IsIdentifier b.name.toList) {tail : List Char} (htail : IsAttribute tail) :
    Spelled (targets bs) b.type.toList b.name.toList tail := by
  obtain ⟨hstem, hafter⟩ := stem_of_isIdentifier hname
  refine ⟨fun _ => ?_, ?_⟩
  · rw [hstem, ← b.toList_canonicalReference, String.ofList_toList]
    exact List.mem_map_of_mem hb
  · rw [hafter, List.nil_append, htail.references_eq]
    exact List.forall_mem_nil _

/-- **Which references to a block of the collection are kept.**  A value that
    refers to it, perhaps to an attribute of it, is kept exactly if what the
    value spells is known: the stem of the block's name as the name of a block
    of its type, and the references behind.  So it is kept whenever the name is
    an identifier. -/
theorem sanitize_keeps_iff {bs : List Block} {b : Block} (hb : b ∈ bs)
    (htype : IsTarget b.type.toList) {tail : String} (htail : IsAttribute tail.toList) :
    let v := b.canonicalReference ++ tail
    let kept := Spelled (targets bs) b.type.toList b.name.toList tail.toList
    (IsIdentifier b.name.toList → kept) ∧
    ∀ (i : Nat) (x : Block), bs[i]? = some x → ∃ x', (sanitize bs)[i]? = some x' ∧
      (∀ key : String, x.settings.get? key = some v → (x'.settings.get? key = some v ↔ kept)) ∧
      ∀ (j : Nat) (key : String), x.assignments[j]? = some (key, v) →
        (x'.assignments[j]? = some (key, v) ↔ kept) := by
  intro v kept
  have hvalue : sanitizeValue (targets bs) v = v ↔ kept :=
    sanitizeValue_target_iff htype htail.head?
  refine ⟨fun hname => spelled_of_isIdentifier hb hname htail, fun i x hx => ?_⟩
  refine ⟨sanitizeBlock (targets bs) x, by rw [sanitize, List.getElem?_map, hx]; rfl, ?_, ?_⟩
  · intro key hkey
    have hget : (sanitizeBlock (targets bs) x).settings.get? key =
        some (sanitizeValue (targets bs) v) := by
      rw [sanitizeBlock, Dict.get?_mapValues, hkey]
      rfl
    rw [hget, Option.some.injEq, hvalue]
  · intro j key hj
    have hget : (sanitizeBlock (targets bs) x).assignments[j]? =
        some (key, sanitizeValue (targets bs) v) := by
      rw [sanitizeBlock, List.getElem?_map, hj]
      rfl
    rw [hget, Option.some.injEq, Prod.mk.injEq, eq_self, true_and, hvalue]

theorem isTarget_bucket : IsTarget "aws_s3_bucket".toList :=
  Or.inr ⟨"aws_", by decide, "s3_bucket".toList, by decide, List.all_eq_true.1 (by decide), rfl⟩

theorem isAttribute_id : IsAttribute ".id".toList := Or.inr ⟨"id".toList, rfl, by decide +kernel⟩

/-- The stem of `my-logs` is the name of another bucket, so a reference to it is kept. -/
theorem sanitize_keeps_stem :
    let logs := Block.starting "main.tf" "aws_s3_bucket" "my-logs" 1
    let bs := [logs, Block.starting "main.tf" "aws_s3_bucket" "my" 3,
      (Block.starting "main.tf" "aws_s3_bucket_policy" "logs" 5).set "bucket"
        "aws_s3_bucket.my-logs.id"]
    logs ∈ bs ∧ IsTarget logs.type.toList ∧ IsAttribute ".id".toList ∧
      ∃ x', (sanitize bs)[2]? = some x' ∧
        x'.settings.get? "bucket" = some "aws_s3_bucket.my-logs.id" ∧
        x'.assignments[0]? = some ("bucket", "aws_s3_bucket.my-logs.id") := by
  intro logs bs
  have hb : logs ∈ bs := List.mem_cons_self
  have hkept : Spelled (targets bs) logs.type.toList logs.name.toList ".id".toList :=
    ⟨fun _ => by decide +kernel, by decide +kernel⟩
  obtain ⟨x', hx', hsettings, hassignments⟩ :=
    (sanitize_keeps_iff hb isTarget_bucket isAttribute_id).2 2 _ rfl
  refine ⟨hb, isTarget_bucket, isAttribute_id, x', hx', ?_, ?_⟩
  · exact (hsettings "bucket" (by decide +kernel)).2 hkept
  · exact (hassignments 0 "bucket" (by decide +kernel)).2 hkept

/-- A letter or an underscore, then letters, digits, underscores and hyphens. -/
def IsName (s : List Char) : Prop :=
  ∃ c rest, s = c :: rest ∧ isIdentStart c = true ∧ ∀ d ∈ rest, isIdentRest d = true ∨ d = '-'

/-- **A hyphen in its name hides a block**: the reference to it is replaced up
    to the hyphen. -/
theorem hyphen_hides_block :
    let text := "resource \"aws_s3_bucket\" \"my-logs\" \x7b\n\x7d\n" ++
      "resource \"aws_s3_bucket_policy\" \"logs\" \x7b\n  bucket = aws_s3_bucket.my-logs.id\n\x7d\n"
    let bs := (BlockScanner.resources []).scan "main.tf" text
    IsTarget "aws_s3_bucket".toList ∧ IsName "my-logs".toList ∧ IsAttribute ".id".toList ∧
      bs.map (fun b => (b.type, b.name)) =
        [("aws_s3_bucket", "my-logs"), ("aws_s3_bucket_policy", "logs")] ∧
      bs.map (·.assignments) = [[], [("bucket", "aws_s3_bucket.my-logs.id")]] ∧
      (sanitize bs).map (·.assignments) = [[], [("bucket", "[EXTERNAL_REF]-logs.id")]] := by
  intro text bs
  have hname : IsName "my-logs".toList :=
    ⟨'m', "y-logs".toList, rfl, by decide, by simp [isIdentRest]⟩
  refine ⟨isTarget_bucket, hname, isAttribute_id, ?_⟩
  -- one evaluation, so that the text is scanned once
  decide +kernel

end Reference

end InfraEvidence
