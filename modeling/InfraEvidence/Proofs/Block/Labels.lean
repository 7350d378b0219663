/-
  InfraEvidence — the labels of an opening line.

  * `Opening.Spells`: a line has the keyword of a kind, some labels, each in
    quotes and after at least one blank, and a brace;
  * `Opening.ofLabels?`: the type and the name that labels give to a block of a
    kind, if it can have so many;
  * `Opening.exists_heads_iff`: together they are the grammar of opening lines;
  * `Opening.Spells.unique`: a line spells no other kind and no other labels;
  * `BlockScanner.open?_exact`: a scanner opens a block exactly at the lines that
    spell its kind, with the type and the name of their labels.
-/
import InfraEvidence.Proofs.Block.Opening
import InfraEvidence.Proofs.Block.Record

namespace InfraEvidence

open Text

namespace Opening

/-- The line has the keyword of the kind, these labels in quotes, each after at
    least one blank, and a brace after any blanks. -/
def Spells (k : BlockKind) (labels : List (List Char)) (s : List Char) : Prop :=
  ∃ (spaced : List SpacedLabel) (gap rest : List Char),
    spaced.map (·.label) = labels ∧ (∀ c ∈ gap, isBlank c = true) ∧
    s = k.keyword.toList ++ (spaced.flatMap (·.text) ++ (gap ++ '{' :: rest))

/-- The type and the name that the labels of a line give to its block. -/
def ofLabels? : BlockKind → List (List Char) → Option Opening
  | .resource, [type, name] => some ⟨type, name⟩
  | .moduleCall, [name] => some ⟨"module".toList, name⟩
  | .dataSource, [type, name] => some ⟨type, name⟩
  | .dataSource, [name] => some ⟨"data_source".toList, name⟩
  | .locals, [] => some ⟨"locals".toList, "local_values".toList⟩
  | _, _ => none

/-! ## The grammar by its labels -/

theorem Heads.spells {k : BlockKind} {head : List Char} {o : Opening} (h : Heads k head o)
    (rest : List Char) :
    ∃ labels, Spells k labels (head ++ '{' :: rest) ∧ ofLabels? k labels = some o := by
  cases h with
  | @resource gap type name hgap =>
    exact ⟨_, ⟨[type, name], gap, rest, rfl, hgap, by simp⟩, rfl⟩
  | @moduleCall gap name hgap =>
    exact ⟨_, ⟨[name], gap, rest, rfl, hgap, by simp⟩, rfl⟩
  | @dataSource gap type name hgap =>
    exact ⟨_, ⟨[type, name], gap, rest, rfl, hgap, by simp⟩, rfl⟩
  | @untyped gap name hgap =>
    exact ⟨_, ⟨[name], gap, rest, rfl, hgap, by simp⟩, rfl⟩
  | @locals gap hgap =>
    exact ⟨_, ⟨[], gap, rest, rfl, hgap, by simp⟩, rfl⟩

theorem exists_heads_of_spells {k : BlockKind} {labels : List (List Char)} {s : List Char}
    {o : Opening} (h : Spells k labels s) (ho : ofLabels? k labels = some o) :
    ∃ head rest, s = head ++ '{' :: rest ∧ Heads k head o := by
  obtain ⟨spaced, gap, rest, rfl, hgap, rfl⟩ := h
  refine ⟨k.keyword.toList ++ (spaced.flatMap (·.text) ++ gap), rest, by simp, ?_⟩
  -- a list of labels that gives an opening has at most two members
  match k, spaced, ho with
  | .resource, [type, name], rfl =>
    rw [List.flatMap_cons, List.flatMap_singleton, List.append_assoc]
    exact .resource type name hgap
  | .moduleCall, [name], rfl =>
    rw [List.flatMap_singleton]
    exact .moduleCall name hgap
  | .dataSource, [type, name], rfl =>
    rw [List.flatMap_cons, List.flatMap_singleton, List.append_assoc]
    exact .dataSource type name hgap
  | .dataSource, [name], rfl =>
    rw [List.flatMap_singleton]
    exact .untyped name hgap
  | .locals, [], rfl =>
    rw [List.flatMap_nil, List.nil_append]
    exact .locals hgap

/-- **The grammar of opening lines**, by the labels that they spell. -/
theorem exists_heads_iff {k : BlockKind} {s : List Char} {o : Opening} :
    (∃ head rest, s = head ++ '{' :: rest ∧ Heads k head o) ↔
      ∃ labels, Spells k labels s ∧ ofLabels? k labels = some o := by
  constructor
  · rintro ⟨head, rest, rfl, h⟩
    exact h.spells rest
  · rintro ⟨labels, h, ho⟩
    exact exists_heads_of_spells h ho

/-! ## A line spells one thing -/

theorem blankLabel?_brace {gap : List Char} (hgap : ∀ c ∈ gap, isBlank c = true)
    (rest : List Char) : blankLabel? (gap ++ '{' :: rest) = none := by
  rw [Option.eq_none_iff_forall_not_mem]
  rintro ⟨label, after⟩ h
  obtain ⟨l, -, hs⟩ := blankLabel?_eq_some_iff.1 h
  have hopens : opensBody (gap ++ '{' :: rest) = true := opensBody_iff.2 ⟨gap, rest, hgap, rfl⟩
  rw [hs, opensBody_text] at hopens
  contradiction

theorem labels_unique {as bs : List SpacedLabel} {gap gap' rest rest' : List Char}
    (hgap : ∀ c ∈ gap, isBlank c = true) (hgap' : ∀ c ∈ gap', isBlank c = true)
    (h : as.flatMap (·.text) ++ (gap ++ '{' :: rest) =
      bs.flatMap (·.text) ++ (gap' ++ '{' :: rest')) :
    as.map (·.label) = bs.map (·.label) := by
  induction as generalizing bs with
  | nil =>
    cases bs with
    | nil => rfl
    | cons b bs =>
      have hread := congrArg blankLabel? h
      simp only [List.flatMap_nil, List.nil_append, List.flatMap_cons, List.append_assoc,
        blankLabel?_brace hgap, blankLabel?_text] at hread
      contradiction
  | cons a as ih =>
    have hread := congrArg blankLabel? h
    cases bs with
    | nil =>
      simp only [List.flatMap_nil, List.nil_append, List.flatMap_cons, List.append_assoc,
        blankLabel?_brace hgap', blankLabel?_text] at hread
      contradiction
    | cons b bs =>
      simp only [List.flatMap_cons, List.append_assoc, blankLabel?_text, Option.some.injEq,
        Prod.mk.injEq] at hread
      rw [List.map_cons, List.map_cons, hread.1, ih hread.2]

/-- The keywords begin with different letters. -/
theorem keyword_head {k k' : BlockKind}
    (h : k.keyword.toList.head? = k'.keyword.toList.head?) : k = k' := by
  cases k <;> cases k' <;> first | rfl | exact absurd h (by decide)

/-- **A line spells at most one kind, with one list of labels.** -/
theorem Spells.unique {k k' : BlockKind} {labels labels' : List (List Char)} {s : List Char}
    (h : Spells k labels s) (h' : Spells k' labels' s) : k = k' ∧ labels = labels' := by
  obtain ⟨as, gap, rest, rfl, hgap, rfl⟩ := h
  obtain ⟨bs, gap', rest', rfl, hgap', heq⟩ := h'
  have hhead : ∀ (k : BlockKind) t, (k.keyword.toList ++ t).head? = k.keyword.toList.head? := by
    intro k t
    cases k <;> rfl
  have hkind : k = k' := keyword_head (by rw [← hhead k, heq, hhead])
  subst hkind
  exact ⟨rfl, labels_unique hgap hgap' (List.append_cancel_left heq)⟩

end Opening

/-! ## Blocks -/

theorem AllowList.admits_eq_true_iff {l : AllowList} {type : String} :
    l.admits type = true ↔ l = [] ∨ ∃ g ∈ l, g.admits type = true := by
  rw [admits, Bool.or_eq_true, List.isEmpty_iff, List.any_eq_true]

namespace BlockScanner

theorem open?_eq_some_iff {sc : BlockScanner} {line : List Char} {o : Opening} :
    sc.open? line = some o ↔
      (∃ labels, Opening.Spells sc.kind labels (trim line) ∧
        Opening.ofLabels? sc.kind labels = some o) ∧
      (sc.kind = .resource → sc.types.admits (String.ofList o.type) = true) := by
  rw [← Opening.exists_heads_iff, ← Opening.parse?_eq_some_iff]
  constructor
  · intro h
    refine ⟨parse?_of_open? h, fun hkind => ?_⟩
    rw [open?, parse?_of_open? h] at h
    by_contra hadmits
    simp [hkind, hadmits] at h
  · rintro ⟨hparse, hadmits⟩
    have hkeep : ¬ (sc.kind = .resource ∧ sc.types.admits (String.ofList o.type) = false) := by
      rintro ⟨hkind, hreject⟩
      simp [hadmits hkind] at hreject
    simp only [open?, hparse, if_neg hkeep]

/-- **A scanner opens a block exactly at the lines of its grammar.**  The trimmed
    line has the keyword of the kind, as many labels as blocks of the kind have,
    and a brace; a list of types that is not empty has to admit the type of a
    resource.  The block has the type and the name that the labels give, and
    nothing in it.  The line spells no other kind and no other labels, so that
    scanners of two kinds open no block at one line. -/
theorem open?_exact (sc : BlockScanner) (file : String) (n : Nat) (line : List Char) :
    (∀ b, (sc.open? line).map (sc.begin file n) = some b ↔
      ∃ labels o, Opening.Spells sc.kind labels (trim line) ∧
        Opening.ofLabels? sc.kind labels = some o ∧
        (sc.kind = .resource →
          sc.types = [] ∨ ∃ g ∈ sc.types, g.admits (String.ofList o.type) = true) ∧
        b = { Block.starting file (String.ofList o.type) (String.ofList o.name) n with
          reference :=
            if sc.kind = .resource ∨ sc.kind = .moduleCall then
              some (String.ofList o.type ++ "." ++ String.ofList o.name)
            else none
          controls :=
            if sc.kind = .resource then Control.codesOf (String.ofList o.type)
            else NameSet.empty }) ∧
    (∀ k k' labels labels', Opening.Spells k labels (trim line) →
      Opening.Spells k' labels' (trim line) → k = k' ∧ labels = labels') ∧
    ∀ sc' : BlockScanner, (sc.open? line).isSome → (sc'.open? line).isSome →
      sc.kind = sc'.kind := by
  have hblock : ∀ o, sc.begin file n o =
      { Block.starting file (String.ofList o.type) (String.ofList o.name) n with
        reference :=
          if sc.kind = .resource ∨ sc.kind = .moduleCall then
            some (String.ofList o.type ++ "." ++ String.ofList o.name)
          else none
        controls :=
          if sc.kind = .resource then Control.codesOf (String.ofList o.type)
          else NameSet.empty } := by
    intro o
    rw [begin_eq, referenceOf, controlsOf]
    cases sc.kind <;> rfl
  refine ⟨fun b => ?_, fun _ _ _ _ h h' => h.unique h', fun sc' h h' => ?_⟩
  · rw [Option.map_eq_some_iff]
    constructor
    · rintro ⟨o, ho, rfl⟩
      obtain ⟨⟨labels, hspells, hlabels⟩, hadmits⟩ := open?_eq_some_iff.1 ho
      exact ⟨labels, o, hspells, hlabels,
        fun hkind => AllowList.admits_eq_true_iff.1 (hadmits hkind), hblock o⟩
    · rintro ⟨labels, o, hspells, hlabels, hadmits, rfl⟩
      have ho : sc.open? line = some o := open?_eq_some_iff.2
        ⟨⟨labels, hspells, hlabels⟩, fun hkind => AllowList.admits_eq_true_iff.2 (hadmits hkind)⟩
      exact ⟨o, ho, hblock o⟩
  · obtain ⟨o, ho⟩ := Option.isSome_iff_exists.1 h
    obtain ⟨o', ho'⟩ := Option.isSome_iff_exists.1 h'
    obtain ⟨⟨_, hspells, -⟩, -⟩ := open?_eq_some_iff.1 ho
    obtain ⟨⟨_, hspells', -⟩, -⟩ := open?_eq_some_iff.1 ho'
    exact (hspells.unique hspells').1

/-- A data source without a type, whose label holds a brace and a blank. -/
theorem open?_exact_untyped :
    let line := "  data \"a \x7bb\"\u00a0\x7b \x7d ".toList
    let sc : BlockScanner := ⟨.dataSource, []⟩
    (sc.open? line).map (sc.begin "main.tf" 3) =
        some (Block.starting "main.tf" "data_source" "a \x7bb" 3) ∧
      ∀ k labels, Opening.Spells k labels (trim line) →
        k = .dataSource ∧ labels = ["a \x7bb".toList] := by
  intro line sc
  have hblank : ∀ c, isBlank c = true → ∀ d ∈ [c], isBlank d = true := fun c hc =>
    List.forall_mem_singleton.2 hc
  let label : SpacedLabel := ⟨[' '], "a \x7bb".toList, List.cons_ne_nil _ _, hblank ' ' (by decide),
    by decide, by decide⟩
  have hspells : Opening.Spells .dataSource ["a \x7bb".toList] (trim line) :=
    ⟨[label], ['\u00a0'], " \x7d".toList, rfl, hblank '\u00a0' (by decide), rfl⟩
  obtain ⟨hopens, hunique, -⟩ := open?_exact sc "main.tf" 3 line
  refine ⟨(hopens _).2 ⟨_, _, hspells, rfl, nofun, rfl⟩, fun k labels h => ?_⟩
  exact hunique k .dataSource labels _ h hspells

end BlockScanner

end InfraEvidence
