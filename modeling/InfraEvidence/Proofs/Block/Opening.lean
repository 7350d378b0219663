/-
  InfraEvidence — the grammar of opening lines.

  Before its brace, a line that opens a block has the keyword of the block and,
  one after the other, its labels in quotes, each of them after some blanks.

  * `SpacedLabel`: a label in quotes and the blanks before it;
  * `Opening.Heads`: the text before the brace is a keyword with the labels of
    an opening, and perhaps blanks;
  * `parse?_eq_some_iff`: a line is an opening exactly if it has such a text
    before a brace, and what follows the brace does not count;
  * `Heads.not_mem`: no other character stands in this text;
  * `BlockScanner.parse?_of_open?`, `open?_congr`: a line opens what it does
    trimmed.
-/
import InfraEvidence.Proofs.Block.Identifier

namespace InfraEvidence

open Text

/-- A label in quotes with the blanks before it. -/
structure SpacedLabel where
  gap : List Char
  label : List Char
  gap_ne_nil : gap ≠ []
  blank : ∀ c ∈ gap, isBlank c = true
  label_ne_nil : label ≠ []
  quote : '"' ∉ label

/-- The label as it is written. -/
def SpacedLabel.text (l : SpacedLabel) : List Char := l.gap ++ quoted l.label

theorem Text.dropLeading?_append (start rest : List Char) :
    dropLeading? start (start ++ rest) = some rest := dropLeading?_eq_some.2 rfl

namespace Opening

/-! ## Labels and the brace -/

theorem blanks?_append {gap s : List Char} (hne : gap ≠ []) (hgap : ∀ c ∈ gap, isBlank c = true) :
    blanks? (gap ++ s) = some (trimStart s) := by
  obtain ⟨c, gap, rfl⟩ := List.exists_cons_of_ne_nil hne
  obtain ⟨hc, hgap⟩ := List.forall_mem_cons.1 hgap
  rw [List.cons_append, blanks?, if_pos hc, trimStart_append_blanks (List.all_eq_true.2 hgap)]

theorem blankLabel?_text (l : SpacedLabel) (t : List Char) :
    blankLabel? (l.text ++ t) = some (l.label, t) := by
  have hstart : trimStart (quoted l.label ++ t) = quoted l.label ++ t := by
    rw [quoted_append]
    exact trimStart_cons (by decide) _
  rw [SpacedLabel.text, List.append_assoc, blankLabel?, blanks?_append l.gap_ne_nil l.blank, hstart,
    Option.bind_some, label?_quoted l.label_ne_nil l.quote]

theorem label?_eq_some {s label rest : List Char} (h : label? s = some (label, rest)) :
    s = quoted label ++ rest ∧ label ≠ [] ∧ '"' ∉ label := by
  unfold label? at h
  split at h
  · next s =>
    split at h
    · next c label' q after htake hdrop =>
      obtain ⟨rfl, rfl⟩ := Prod.mk.inj (Option.some.inj h)
      have hq : q = '"' := by simpa [hdrop] using List.head?_dropWhile_not (· != '"') s
      refine ⟨?_, List.cons_ne_nil _ _, fun hmem => ?_⟩
      · rw [quoted_append, ← hq, ← hdrop, ← htake, List.takeWhile_append_dropWhile]
      · have := List.mem_takeWhile_imp (htake ▸ hmem)
        simp at this
    · contradiction
  · contradiction

/-- **A label is read exactly if the text begins with one after blanks.** -/
theorem blankLabel?_eq_some_iff {s label rest : List Char} :
    blankLabel? s = some (label, rest) ↔
      ∃ l : SpacedLabel, l.label = label ∧ s = l.text ++ rest := by
  constructor
  · intro h
    cases s with
    | nil => simp [blankLabel?, blanks?] at h
    | cons c s =>
      by_cases hc : isBlank c = true
      · rw [blankLabel?, blanks?, if_pos hc, Option.bind_some] at h
        obtain ⟨hs, hne, hquote⟩ := label?_eq_some h
        refine ⟨⟨c :: s.takeWhile isBlank, label, List.cons_ne_nil _ _, ?_, hne, hquote⟩, rfl, ?_⟩
        · exact List.forall_mem_cons.2 ⟨hc, List.all_eq_true.1 List.all_takeWhile⟩
        · rw [SpacedLabel.text, List.append_assoc, ← hs, trimStart, List.cons_append,
            List.takeWhile_append_dropWhile]
      · rw [blankLabel?, blanks?, if_neg hc] at h
        contradiction
  · rintro ⟨l, rfl, rfl⟩
    exact blankLabel?_text l rest

/-- **The body opens exactly if only blanks stand before a brace.** -/
theorem opensBody_iff {s : List Char} :
    opensBody s = true ↔ ∃ gap rest, (∀ c ∈ gap, isBlank c = true) ∧ s = gap ++ '{' :: rest := by
  rw [opensBody, beq_iff_eq]
  constructor
  · intro h
    obtain ⟨rest, hrest⟩ := List.head?_eq_some_iff.1 h
    refine ⟨s.takeWhile isBlank, rest, List.all_eq_true.1 List.all_takeWhile, ?_⟩
    rw [← hrest, trimStart, List.takeWhile_append_dropWhile]
  · rintro ⟨gap, rest, hgap, rfl⟩
    rw [trimStart_append_blanks (List.all_eq_true.2 hgap), trimStart_cons (by decide)]
    rfl

theorem opensBody_text (l : SpacedLabel) (t : List Char) : opensBody (l.text ++ t) = false := by
  rw [opensBody, SpacedLabel.text, List.append_assoc,
    trimStart_append_blanks (List.all_eq_true.2 l.blank), quoted_append, trimStart_cons (by decide)]
  rfl

/-! ## The text before the brace -/

/-- A keyword, the labels of an opening, and perhaps blanks.  A data source may
    have no type. -/
inductive Heads : BlockKind → List Char → Opening → Prop
  | resource {gap} (type name : SpacedLabel) (blank : ∀ c ∈ gap, isBlank c = true) :
      Heads .resource (BlockKind.resource.keyword.toList ++ (type.text ++ (name.text ++ gap)))
        ⟨type.label, name.label⟩
  | moduleCall {gap} (name : SpacedLabel) (blank : ∀ c ∈ gap, isBlank c = true) :
      Heads .moduleCall (BlockKind.moduleCall.keyword.toList ++ (name.text ++ gap))
        ⟨BlockKind.moduleCall.keyword.toList, name.label⟩
  | dataSource {gap} (type name : SpacedLabel) (blank : ∀ c ∈ gap, isBlank c = true) :
      Heads .dataSource (BlockKind.dataSource.keyword.toList ++ (type.text ++ (name.text ++ gap)))
        ⟨type.label, name.label⟩
  | untyped {gap} (name : SpacedLabel) (blank : ∀ c ∈ gap, isBlank c = true) :
      Heads .dataSource (BlockKind.dataSource.keyword.toList ++ (name.text ++ gap))
        ⟨"data_source".toList, name.label⟩
  | locals {gap} (blank : ∀ c ∈ gap, isBlank c = true) :
      Heads .locals (BlockKind.locals.keyword.toList ++ gap)
        ⟨BlockKind.locals.keyword.toList, "local_values".toList⟩

theorem parse?_of_heads {k : BlockKind} {head : List Char} {o : Opening} (h : Heads k head o)
    (rest : List Char) : parse? k (head ++ '{' :: rest) = some o := by
  have hbody : ∀ gap : List Char, (∀ c ∈ gap, isBlank c = true) →
      opensBody (gap ++ '{' :: rest) = true :=
    fun gap hgap => opensBody_iff.2 ⟨gap, rest, hgap, rfl⟩
  cases h with
  | resource type name hgap =>
    simp only [parse?, List.append_assoc, dropLeading?_append, Option.bind_eq_bind,
      Option.bind_some, blankLabel?_text, hbody _ hgap, if_true]
  | moduleCall name hgap =>
    simp only [parse?, List.append_assoc, dropLeading?_append, Option.bind_eq_bind,
      Option.bind_some, blankLabel?_text, hbody _ hgap, if_true]
  | dataSource type name hgap =>
    simp only [parse?, List.append_assoc, dropLeading?_append, Option.bind_eq_bind,
      Option.bind_some, blankLabel?_text, opensBody_text, Bool.false_eq_true, if_false,
      hbody _ hgap, if_true]
  | untyped name hgap =>
    simp only [parse?, List.append_assoc, dropLeading?_append, Option.bind_eq_bind,
      Option.bind_some, blankLabel?_text, hbody _ hgap, if_true]
  | locals hgap =>
    simp only [parse?, List.append_assoc, dropLeading?_append, Option.bind_eq_bind,
      Option.bind_some, hbody _ hgap, if_true]

theorem ite_opensBody_eq_some {s : List Char} {o o' : Opening}
    (h : (if opensBody s = true then some o' else none) = some o) :
    o' = o ∧ ∃ gap rest, (∀ c ∈ gap, isBlank c = true) ∧ s = gap ++ '{' :: rest := by
  split at h
  · next hbody => exact ⟨Option.some.inj h, opensBody_iff.1 hbody⟩
  · contradiction

theorem exists_heads_of_parse? {k : BlockKind} {s : List Char} {o : Opening}
    (h : parse? k s = some o) : ∃ head rest, s = head ++ '{' :: rest ∧ Heads k head o := by
  simp only [parse?, Option.bind_eq_bind, Option.bind_eq_some_iff] at h
  obtain ⟨t, hkeyword, h⟩ := h
  obtain rfl := dropLeading?_eq_some.1 hkeyword
  cases k with
  | resource =>
    simp only [Option.bind_eq_some_iff] at h
    obtain ⟨⟨type, s₁⟩, htype, ⟨name, s₂⟩, hname, h⟩ := h
    obtain ⟨type, rfl, rfl⟩ := blankLabel?_eq_some_iff.1 htype
    obtain ⟨name, rfl, rfl⟩ := blankLabel?_eq_some_iff.1 hname
    obtain ⟨rfl, gap, rest, hgap, rfl⟩ := ite_opensBody_eq_some h
    exact ⟨_, rest, by simp only [List.append_assoc], .resource type name hgap⟩
  | moduleCall =>
    simp only [Option.bind_eq_some_iff] at h
    obtain ⟨⟨name, s₁⟩, hname, h⟩ := h
    obtain ⟨name, rfl, rfl⟩ := blankLabel?_eq_some_iff.1 hname
    obtain ⟨rfl, gap, rest, hgap, rfl⟩ := ite_opensBody_eq_some h
    exact ⟨_, rest, by simp only [List.append_assoc], .moduleCall name hgap⟩
  | dataSource =>
    simp only [Option.bind_eq_some_iff] at h
    obtain ⟨⟨first, s₁⟩, hfirst, h⟩ := h
    obtain ⟨first, rfl, rfl⟩ := blankLabel?_eq_some_iff.1 hfirst
    split at h
    · next hbody =>
      obtain ⟨gap, rest, hgap, rfl⟩ := opensBody_iff.1 hbody
      cases h
      exact ⟨_, rest, by simp only [List.append_assoc], .untyped first hgap⟩
    · simp only [Option.bind_eq_some_iff] at h
      obtain ⟨⟨name, s₂⟩, hname, h⟩ := h
      obtain ⟨name, rfl, rfl⟩ := blankLabel?_eq_some_iff.1 hname
      obtain ⟨rfl, gap, rest, hgap, rfl⟩ := ite_opensBody_eq_some h
      exact ⟨_, rest, by simp only [List.append_assoc], .dataSource first name hgap⟩
  | locals =>
    obtain ⟨rfl, gap, rest, hgap, rfl⟩ := ite_opensBody_eq_some h
    exact ⟨_, rest, by simp only [List.append_assoc], .locals hgap⟩

/-- **A line opens a block exactly if it has a keyword and labels before a
    brace**, whatever follows it. -/
theorem parse?_eq_some_iff {k : BlockKind} {s : List Char} {o : Opening} :
    parse? k s = some o ↔ ∃ head rest, s = head ++ '{' :: rest ∧ Heads k head o := by
  constructor
  · exact exists_heads_of_parse?
  · rintro ⟨head, rest, rfl, h⟩
    exact parse?_of_heads h rest

/-! ## What stands before the brace -/

theorem not_mem_of_blank {c : Char} (hc : isBlank c = false) {s : List Char}
    (hs : ∀ d ∈ s, isBlank d = true) : c ∉ s := by
  intro hmem
  rw [hs c hmem] at hc
  contradiction

theorem not_mem_text {c : Char} (hblank : isBlank c = false) (hquote : c ≠ '"') {l : SpacedLabel}
    (hlabel : c ∉ l.label) : c ∉ l.text := by
  simp [SpacedLabel.text, quoted, hquote, hlabel, not_mem_of_blank hblank l.blank]

/-- **Before the brace stands nothing but the keyword, blanks and the labels**
    in their quotes. -/
theorem Heads.not_mem {k : BlockKind} {head : List Char} {o : Opening} {c : Char}
    (h : Heads k head o) (hkeyword : c ∉ k.keyword.toList) (hblank : isBlank c = false)
    (hquote : c ≠ '"') (htype : c ∉ o.type) (hname : c ∉ o.name) : c ∉ head := by
  have hlabel : ∀ l : SpacedLabel, c ∉ l.label → c ∉ l.text := fun l => not_mem_text hblank hquote
  cases h with
  | resource type name hgap | dataSource type name hgap =>
    simp only [List.mem_append, not_or]
    exact ⟨hkeyword, hlabel type htype, hlabel name hname, not_mem_of_blank hblank hgap⟩
  | moduleCall name hgap | untyped name hgap =>
    simp only [List.mem_append, not_or]
    exact ⟨hkeyword, hlabel name hname, not_mem_of_blank hblank hgap⟩
  | locals hgap =>
    simp only [List.mem_append, not_or]
    exact ⟨hkeyword, not_mem_of_blank hblank hgap⟩

end Opening

/-! ## Lines -/

namespace BlockScanner

variable {sc : BlockScanner}

theorem parse?_of_open? {l : List Char} {o : Opening} (h : sc.open? l = some o) :
    Opening.parse? sc.kind (trim l) = some o := by
  unfold open? at h
  split at h
  · next o' ho =>
    split at h
    · contradiction
    · rw [ho, h]
  · contradiction

/-- Only the trimmed line counts, and of that only the opening that it is. -/
theorem open?_congr {l l' : List Char}
    (h : Opening.parse? sc.kind (trim l) = Opening.parse? sc.kind (trim l')) :
    sc.open? l = sc.open? l' := by
  rw [open?, open?, h]

end BlockScanner

end InfraEvidence
