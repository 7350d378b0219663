/-
  InfraEvidence — coherent collections.

  A block has its assignments twice, in order and by key, and what is done to a
  collection changes the one or the other.

  * `Fresh`: a block with nothing in it, or one that a scan finds;
  * `Change`: one thing that is done to a collection;
  * `Fresh.coherent`, `Change.coherent`: the two copies agree at first, and
    every change keeps it so;
  * `Reachable`, `reachable_coherent`: so they agree in every collection that
    any number of changes lead to, on every key but the one of the notes.
-/
import Mathlib.Logic.Relation
import InfraEvidence.Proofs.Scan.Narrowing
import InfraEvidence.Proofs.Selection.Keep
import InfraEvidence.Reference

namespace InfraEvidence

/-- The last pair with the key `key` has the value `value`. -/
def IsLastOf (key value : String) (ps : List (String × String)) : Prop :=
  ∃ before after, ps = before ++ (key, value) :: after ∧ key ∉ after.map (·.1)

theorem lookup_reverse_eq_some_iff {ps : List (String × String)} {key value : String} :
    ps.reverse.lookup key = some value ↔ IsLastOf key value ps := by
  rw [List.lookup_eq_some_iff]
  constructor
  · rintro ⟨after, before, he, hafter⟩
    refine ⟨before.reverse, after.reverse, ?_, ?_⟩
    · rw [← List.reverse_inj, he]
      simp
    · intro hmem
      obtain ⟨p, hp, hkey⟩ := List.mem_map.1 hmem
      exact (bne_iff_ne.1 (hafter p (List.mem_reverse.1 hp))) hkey.symm
  · rintro ⟨before, after, rfl, hafter⟩
    refine ⟨after.reverse, before.reverse, by simp, fun p hp => bne_iff_ne.2 fun hkey => ?_⟩
    exact hafter (List.mem_map.2 ⟨p, List.mem_reverse.1 hp, hkey.symm⟩)

theorem exists_isLastOf_iff {ps : List (String × String)} {key : String} :
    (∃ value, IsLastOf key value ps) ↔ key ∈ ps.map (·.1) := by
  simp only [← lookup_reverse_eq_some_iff]
  rw [← Option.isSome_iff_exists, List.lookup_isSome_iff, List.mem_map]
  constructor
  · rintro ⟨p, hp, hkey⟩
    exact ⟨p, List.mem_reverse.1 hp, (beq_iff_eq.1 hkey).symm⟩
  · rintro ⟨p, hp, rfl⟩
    exact ⟨p, List.mem_reverse.2 hp, beq_self_eq_true _⟩

/-! ## What keeps a block coherent -/

namespace Block

theorem coherent_starting (file type name : String) (line : Nat) :
    (starting file type name line).Coherent := fun _ _ => rfl

/-- An assignment comes last in the one copy and decides the key in the other. -/
theorem Coherent.set {b : Block} (h : b.Coherent) (key value : String) :
    (b.set key value).Coherent := by
  intro k hk
  simp only [Block.set, Dict.get?_insert, List.reverse_append, List.reverse_singleton,
    List.singleton_append, List.lookup_cons]
  by_cases he : k = key
  · simp [he]
  · have hb : (k == key) = false := by simpa using he
    rw [if_neg he, hb]
    exact h k hk

/-- Both copies are sanitized value by value, so a key has the same value in both. -/
theorem Coherent.sanitizeBlock {b : Block} (h : b.Coherent) (known : List String) :
    (Reference.sanitizeBlock known b).Coherent := by
  intro key hkey
  simp only [Reference.sanitizeBlock, Dict.get?_mapValues, ← List.map_reverse, Dict.lookup_map,
    h key hkey]

theorem Coherent.withControls {b : Block} (h : b.Coherent) (codes : List String) :
    (b.withControls codes).Coherent := h

theorem Coherent.mem_keys_iff {b : Block} (h : b.Coherent) {key : String} (hkey : key ≠ noteKey) :
    key ∈ b.settings.keys ↔ key ∈ b.assignments.map (·.1) := by
  simp only [Dict.mem_keys_iff, h key hkey, lookup_reverse_eq_some_iff, exists_isLastOf_iff]

theorem Coherent.get?_eq_some_iff {b : Block} (h : b.Coherent) {key : String}
    (hkey : key ≠ noteKey) (value : String) :
    b.settings.get? key = some value ↔ IsLastOf key value b.assignments := by
  rw [h key hkey, lookup_reverse_eq_some_iff]

end Block

/-- **Every block that a scan finds is coherent**, whatever the text is. -/
theorem BlockScanner.coherent_scan {sc : BlockScanner} {file text : String} {b : Block}
    (hb : b ∈ sc.scan file text) : b.Coherent := by
  rw [scan_eq_run] at hb
  obtain ⟨before, l, o, body, after, -, -, -, rfl⟩ := mem_run hb
  exact coherent_record _ _ _ _ _ _ _

/-! ## Collections that change -/

/-- A block to which nothing has been done yet. -/
inductive Fresh : Block → Prop
  | starting (file type name : String) (line : Nat) : Fresh (.starting file type name line)
  | found {sc : BlockScanner} {file text : String} {b : Block} :
      b ∈ sc.scan file text → Fresh b

/-- What can be done to a collection. -/
inductive Change : List Block → List Block → Prop
  | set {as b bs} (key value : String) : Change (as ++ b :: bs) (as ++ b.set key value :: bs)
  | controls {as b bs} (codes : List String) :
      Change (as ++ b :: bs) (as ++ b.withControls codes :: bs)
  | sanitize {bs} : Change bs (Reference.sanitize bs)
  | terms {bs} (texts : List String) : Change bs (Selection.byTerms texts bs)
  | codes {bs} (texts : List String) : Change bs (Selection.byCodes texts bs)
  | compliance {bs} (standard : String) : Change bs (bs.filter (Selection.isCompliant standard))
  | issues {bs} : Change bs (bs.filter Selection.hasIssues)
  | remove {bs bs'} : bs'.Sublist bs → Change bs bs'
  | reorder {bs bs'} : bs'.Perm bs → Change bs bs'
  | add {bs new} : (∀ b ∈ new, Fresh b) → Change bs (bs ++ new)

/-- The collections that some changes of fresh blocks lead to. -/
def Reachable (bs : List Block) : Prop :=
  ∃ start, (∀ b ∈ start, Fresh b) ∧ Relation.ReflTransGen Change start bs

theorem Fresh.coherent {b : Block} (h : Fresh b) : b.Coherent := by
  cases h with
  | starting file type name line => exact Block.coherent_starting file type name line
  | found hb => exact BlockScanner.coherent_scan hb

/-- **A change of a coherent collection leaves it coherent.** -/
theorem Change.coherent {bs bs' : List Block} (h : Change bs bs')
    (hbs : ∀ b ∈ bs, b.Coherent) : ∀ b ∈ bs', b.Coherent := by
  -- a block put in the place of another one
  have hreplace : ∀ {as b c cs}, (∀ x ∈ as ++ b :: cs, Block.Coherent x) →
      (b.Coherent → c.Coherent) → ∀ x ∈ as ++ c :: cs, Block.Coherent x := by
    intro as b c cs hall hc
    obtain ⟨has, hbcs⟩ := List.forall_mem_append.1 hall
    obtain ⟨hb, hcs⟩ := List.forall_mem_cons.1 hbcs
    exact List.forall_mem_append.2 ⟨has, List.forall_mem_cons.2 ⟨hc hb, hcs⟩⟩
  cases h with
  | set key value => exact hreplace hbs fun hb => hb.set key value
  | controls codes => exact hreplace hbs fun hb => hb.withControls codes
  | sanitize =>
    intro x hx
    obtain ⟨b, hb, rfl⟩ := List.mem_map.1 hx
    exact (hbs b hb).sanitizeBlock _
  | terms texts => exact fun b hb => hbs b ((Selection.keep_sublist _ _).subset hb)
  | codes texts => exact fun b hb => hbs b ((Selection.keep_sublist _ _).subset hb)
  | compliance standard => exact fun b hb => hbs b (List.mem_filter.1 hb).1
  | issues => exact fun b hb => hbs b (List.mem_filter.1 hb).1
  | remove hsub => exact fun b hb => hbs b (hsub.subset hb)
  | reorder hperm => exact fun b hb => hbs b (hperm.subset hb)
  | add hnew => exact List.forall_mem_append.2 ⟨hbs, fun b hb => (hnew b hb).coherent⟩

theorem Reachable.coherent {bs : List Block} (h : Reachable bs) : ∀ b ∈ bs, b.Coherent := by
  obtain ⟨start, hstart, hrun⟩ := h
  induction hrun with
  | refl => exact fun b hb => (hstart b hb).coherent
  | tail _ hchange ih => exact hchange.coherent ih

/-- **Settings and assignments agree in every reachable collection**: a key
    other than the one of the notes is set exactly if it is assigned, and to
    the value of its last assignment. -/
theorem reachable_coherent {bs : List Block} (h : Reachable bs) {b : Block} (hb : b ∈ bs)
    {key : String} (hkey : key ≠ Block.noteKey) :
    (key ∈ b.settings.keys ↔ key ∈ b.assignments.map (·.1)) ∧
      ∀ value, b.settings.get? key = some value ↔ IsLastOf key value b.assignments :=
  ⟨(h.coherent b hb).mem_keys_iff hkey, (h.coherent b hb).get?_eq_some_iff hkey⟩

/-- A group with a key that is assigned twice and with a line among its notes,
    sanitized and selected by its name. -/
theorem reachable_coherent_web :
    let found := (BlockScanner.resources []).scan "sg.tf" ("resource \"aws_security_group\" \"web\" " ++
      "\x7b\n  note = \"web access\"\n  cidr = module.a.b\n  cidr = module.edge.range\n\x7d\n")
    let bs := Selection.byTerms ["web"] (Reference.sanitize found)
    Reachable bs ∧ "cidr" ≠ Block.noteKey ∧
      ∃ b ∈ bs, b.assignments = [("note", "web access"), ("cidr", "[EXTERNAL_REF].b"),
          ("cidr", "[EXTERNAL_REF].range")] ∧
        "cidr" ∈ b.settings.keys ∧ b.settings.get? "cidr" = some "[EXTERNAL_REF].range" := by
  intro found bs
  have hreach : Reachable bs := by
    refine ⟨found, fun b hb => .found hb, ?_⟩
    exact (Relation.ReflTransGen.single .sanitize).tail (.terms ["web"])
  have hkey : "cidr" ≠ Block.noteKey := by decide
  obtain ⟨b, hb, hassigned⟩ : ∃ b ∈ bs, b.assignments = [("note", "web access"),
      ("cidr", "[EXTERNAL_REF].b"), ("cidr", "[EXTERNAL_REF].range")] := by decide +kernel
  obtain ⟨hkeys, hvalue⟩ := reachable_coherent hreach hb hkey
  refine ⟨hreach, hkey, b, hb, hassigned, ?_, ?_⟩
  · rw [hkeys, hassigned]
    decide
  · refine (hvalue _).2 ⟨[("note", "web access"), ("cidr", "[EXTERNAL_REF].b")], [], ?_, ?_⟩
    · exact hassigned
    · exact List.not_mem_nil

end InfraEvidence
