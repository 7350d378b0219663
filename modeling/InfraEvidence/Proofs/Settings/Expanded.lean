/-
  InfraEvidence — whose value a reference gets.

  * `Expansion.claimant?`: a name without braces belongs to the first variable of
    the text that is set and that it begins with;
  * `expand_simultaneous_iff`: every reference gets the value of its own variable,
    whatever the values are, exactly when each such name belongs to itself;
  * `stage_shadows_longer_names`: a name that belongs to another variable gets
    the other value, whether its own variable is set or not.
-/
import Mathlib.Algebra.Order.BigOperators.Group.List
import Mathlib.Algebra.Order.Group.Nat
import InfraEvidence.Proofs.Settings.Rounds

namespace InfraEvidence.Expansion

/-- The first variable without braces that is set and that the name begins with. -/
def claimant? (env : Environment) (s name : List Char) : Option (List Char) :=
  (bareNames s).find? fun first => (env (String.ofList first)).isSome && first.isPrefixOf name

/-- No value holds a dollar sign, and one right behind a lone dollar sign, or behind
    a name that a longer one begins with, begins bluntly. -/
structure Harmless (env : Environment) (s : List Char) : Prop where
  values : ∀ r ∈ references s, ∀ value ∈ r.value? env, '$' ∉ value.toList
  apart : (pieces s).IsChain fun p q =>
    p.Open env s → ∀ value ∈ q.value? env, Blunt value.toList

/-! ## What the rounds make of each piece -/

section

variable {env : Environment} {s : List Char}

theorem own_of_value? {p : Piece} {value : String} (h : p.value? env = some value) :
    p.own env = value.toList := by
  rw [Piece.own, h]
  rfl

theorem own_of_unset {p : Piece} (h : p.value? env = none) : p.own env = p.text := by
  rw [Piece.own, h]
  rfl

theorem hit_bare (name first : List Char) :
    (Piece.bare name).hit env (.bare first) =
      if first.isPrefixOf name then
        (env (String.ofList first)).map fun value => value.toList ++ name.drop first.length
      else none := by
  simp [Piece.hit, Piece.text, bareRef, Piece.value?, Piece.name?]

theorem of_mem_claimant? {name first : List Char} (h : first ∈ claimant? env s name) :
    (env (String.ofList first)).isSome ∧ first <+: name := by
  have hfound := List.find?_some (Option.mem_def.1 h)
  rwa [Bool.and_eq_true, List.isPrefixOf_iff_prefix] at hfound

theorem findSome?_hit_bare (name : List Char) (names : List (List Char)) :
    (names.map Piece.bare).findSome? ((Piece.bare name).hit env) =
      (names.find? fun first => (env (String.ofList first)).isSome && first.isPrefixOf name).bind
        fun first => (Piece.bare name).hit env (.bare first) := by
  induction names with
  | nil => rfl
  | cons first names ih =>
    rw [List.map_cons, List.findSome?_cons, List.find?_cons, ih, hit_bare]
    cases hvalue : env (String.ofList first) with
    | none => simp
    | some value =>
      cases hbegins : first.isPrefixOf name with
      | false => simp
      | true => simp [hit_bare, hvalue, List.isPrefixOf_iff_prefix.1 hbegins]

variable (hbraces : ∀ name ∈ bracedNames s, '$' ∉ name)

include hbraces

theorem settled_bare {name : List Char} (hname : .bare name ∈ pieces s) :
    settled env (references s) (.bare name) =
      ((claimant? env s name).bind fun first => (Piece.bare name).hit env (.bare first)).getD
        (bareRef name) := by
  have hnone : ((bracedNames s).map Piece.braced).findSome? ((Piece.bare name).hit env) = none := by
    refine findSome?_hit_eq_none hbraces (fun r hr => List.mem_append_left _ hr) hname ?_
    intro r hr
    obtain ⟨n, -, rfl⟩ := List.mem_map.1 hr
    exact ⟨nofun, .inl rfl⟩
  rw [settled, references, List.findSome?_append, hnone, Option.none_or, findSome?_hit_bare]
  rfl

/-- A piece other than a reference without braces gets its own value. -/
theorem settled_of_bare?_eq_none {p : Piece} (hp : p ∈ pieces s) (h : p.bare? = none) :
    settled env (references s) p = p.own env := by
  cases hhit : (references s).findSome? (p.hit env) with
  | none =>
    rw [settled_eq_text hhit, own_of_unset]
    by_contra hvalue
    obtain ⟨value, hvalue⟩ := Option.ne_none_iff_exists'.1 hvalue
    have hname : p.name? ≠ none := fun hname => by simp [Piece.value?, hname] at hvalue
    have hself := List.findSome?_eq_none_iff.1 hhit p ((mem_references hbraces).2 ⟨hp, hname⟩)
    rw [Piece.hit_append hvalue (List.append_nil _).symm] at hself
    contradiction
  | some t =>
    obtain ⟨r, hr, ht⟩ := List.exists_of_findSome?_eq_some hhit
    rcases eq_or_bare_of_hit hbraces hp hr ht with rfl | ⟨_, _, -, rfl, -⟩
    · obtain ⟨value, after, hvalue, htext, rfl⟩ := Piece.hit_eq_some ht
      rw [List.self_eq_append_right] at htext
      rw [settled, hhit, own_of_value? hvalue, htext, List.append_nil]
      rfl
    · cases h

/-- So does a reference without braces, if its name belongs to no other variable. -/
theorem settled_eq_own {p : Piece} (hp : p ∈ pieces s)
    (hown : ∀ name ∈ p.bare?, ∀ first ∈ claimant? env s name, first = name) :
    settled env (references s) p = p.own env := by
  cases p with
  | braced name => exact settled_of_bare?_eq_none hbraces hp rfl
  | plain c => exact settled_of_bare?_eq_none hbraces hp rfl
  | bare name =>
    have hname := (mem_bareNames hbraces).2 hp
    rw [settled_bare hbraces hp]
    cases hclaim : claimant? env s name with
    | none =>
      have hunset : env (String.ofList name) = none := by
        simpa using List.find?_eq_none.1 hclaim name hname
      rw [own_of_unset (show (Piece.bare name).value? env = none from hunset)]
      rfl
    | some first =>
      obtain rfl := hown name rfl first hclaim
      obtain ⟨value, hvalue⟩ := Option.isSome_iff_exists.1 (of_mem_claimant? hclaim).1
      rw [own_of_value? (show (Piece.bare first).value? env = some value from hvalue)]
      simp [hit_bare, hvalue]

omit hbraces in
theorem Harmless.inert (h : Harmless env s) (hbraces : ∀ name ∈ bracedNames s, '$' ∉ name)
    (hown : ∀ name ∈ bareNames s, ∀ first ∈ claimant? env s name, first = name) : Inert env s where
  braces := hbraces
  values := h.values
  apart := by
    refine h.apart.imp_of_mem_imp fun p q _ hq hpq hopen => ?_
    have hsettled : settled env (references s) q = q.own env :=
      settled_eq_own hbraces hq fun name hname =>
        hown name (mem_bareNames_of_bare? hbraces hq hname)
    rw [hsettled]
    cases hvalue : q.value? env with
    | none => exact .inl (own_of_unset hvalue)
    | some value => exact .inr (own_of_value? hvalue ▸ hpq hopen value hvalue)

end

/-! ## Blank values -/

/-- The same variables, each with the same number of blanks. -/
def blanks (env : Environment) (k : Nat) : Environment :=
  fun name => (env name).map fun _ => String.ofList (List.replicate k ' ')

section

variable {env : Environment} {s : List Char} {k : Nat}

theorem isSome_blanks (name : String) : (blanks env k name).isSome = (env name).isSome :=
  Option.isSome_map

theorem value?_blanks {p : Piece} {value : String} (h : p.value? (blanks env k) = some value) :
    value.toList = List.replicate k ' ' := by
  obtain ⟨name, -, hvalue⟩ := Option.bind_eq_some_iff.1 h
  obtain ⟨_, -, rfl⟩ := Option.map_eq_some_iff.1 hvalue
  exact String.toList_ofList

theorem claimant?_congr {env' : Environment} (h : ∀ name, (env' name).isSome = (env name).isSome)
    (s name : List Char) : claimant? env' s name = claimant? env s name := by
  simp only [claimant?, h]

theorem blunt_blanks (t : List Char) : Blunt (List.replicate (k + 1) ' ' ++ t) :=
  ⟨' ', rfl, by decide, by decide⟩

theorem harmless_blanks : Harmless (blanks env (k + 1)) s where
  values r _ value hvalue := by
    rw [value?_blanks hvalue]
    exact fun h => absurd (List.eq_of_mem_replicate h) (by decide)
  apart := by
    refine List.Pairwise.isChain (List.pairwise_of_forall fun p q _ value hvalue => ?_)
    rw [value?_blanks hvalue, ← List.append_nil (List.replicate _ _)]
    exact blunt_blanks []

theorem inert_blanks (hbraces : ∀ name ∈ bracedNames s, '$' ∉ name) :
    Inert (blanks env (k + 1)) s where
  braces := hbraces
  values := harmless_blanks.values
  apart := by
    refine List.Pairwise.isChain (List.pairwise_of_forall fun p q _ => ?_)
    cases hhit : (references s).findSome? (q.hit (blanks env (k + 1))) with
    | none => exact .inl (settled_eq_text hhit)
    | some t =>
      obtain ⟨r, -, ht⟩ := List.exists_of_findSome?_eq_some hhit
      obtain ⟨value, after, hvalue, -, rfl⟩ := Piece.hit_eq_some ht
      rw [settled, hhit, Option.getD_some, value?_blanks hvalue]
      exact .inr (blunt_blanks after)

/-- A name that belongs to another variable leaves its rest behind the value. -/
theorem length_own_lt_settled (hbraces : ∀ name ∈ bracedNames s, '$' ∉ name) (hk : s.length < k)
    {name first : List Char} (hname : .bare name ∈ pieces s)
    (hfirst : first ∈ claimant? env s name) (hne : first ≠ name) :
    ((Piece.bare name).own (blanks env k)).length <
      (settled (blanks env k) (references s) (.bare name)).length := by
  obtain ⟨hset, hbegins⟩ := of_mem_claimant? hfirst
  obtain ⟨value, hvalue⟩ := Option.isSome_iff_exists.1 hset
  have hsettled : settled (blanks env k) (references s) (.bare name) =
      List.replicate k ' ' ++ name.drop first.length := by
    rw [settled_bare hbraces hname, claimant?_congr isSome_blanks, Option.mem_def.1 hfirst]
    simp [hit_bare, hbegins, blanks, hvalue]
  have hshorter : first.length < name.length :=
    lt_of_le_of_ne hbegins.length_le fun h => hne (hbegins.eq_of_length h)
  rw [hsettled, List.length_append, List.length_replicate, List.length_drop]
  cases hown : (Piece.bare name).value? (blanks env k) with
  | some own =>
    rw [own_of_value? hown, value?_blanks hown, List.length_replicate]
    omega
  | none =>
    have htext : (Piece.bare name).text.length ≤ s.length := by
      rw [← (cut_pieces s).text_eq, List.flatMap_def]
      exact (List.sublist_flatten_of_mem (List.mem_map_of_mem hname)).length_le
    rw [own_of_unset hown]
    omega

end

/-- **Every reference gets the value of its own variable, whatever the values are,
    exactly when every name without braces belongs to itself.** -/
theorem expand_simultaneous_iff (env : Environment) {s : List Char}
    (hbraces : ∀ name ∈ bracedNames s, '$' ∉ name) :
    (∀ env' : Environment, (∀ name, (env' name).isSome = (env name).isSome) → Harmless env' s →
        expand env' s = simultaneous env' s) ↔
      ∀ name ∈ bareNames s, ∀ first ∈ claimant? env s name, first = name := by
  constructor
  · intro h name hname first hfirst
    by_contra hne
    have hk : s.length < s.length + 1 := Nat.lt_succ_self _
    have hpiece := (mem_bareNames hbraces).1 hname
    have hexpand := h (blanks env (s.length + 1)) isSome_blanks harmless_blanks
    rw [expand_eq_settled (inert_blanks hbraces), simultaneous] at hexpand
    refine absurd (congrArg List.length hexpand) (Nat.ne_of_gt ?_)
    rw [List.length_flatMap, List.length_flatMap]
    refine List.sum_lt_sum _ _ (fun p hp => ?_)
      ⟨_, hpiece, length_own_lt_settled hbraces hk hpiece hfirst hne⟩
    by_cases hown : ∀ n ∈ p.bare?, ∀ m ∈ claimant? (blanks env (s.length + 1)) s n, m = n
    · exact (congrArg List.length (settled_eq_own hbraces hp hown)).ge
    · simp only [not_forall, exists_prop] at hown
      obtain ⟨n, hn, m, hm, hmn⟩ := hown
      rw [claimant?_congr isSome_blanks] at hm
      cases p <;> cases hn
      exact (length_own_lt_settled hbraces hk hp hm hmn).le
  · intro hown env' hset hharmless
    have hown' : ∀ name ∈ bareNames s, ∀ first ∈ claimant? env' s name, first = name := by
      simpa only [claimant?_congr hset] using hown
    rw [expand_eq_settled (hharmless.inert hbraces hown'), simultaneous]
    exact List.flatMap_congr fun p hp => settled_eq_own hbraces hp fun name hname =>
      hown' name (mem_bareNames_of_bare? hbraces hp hname)

/-- Names in braces and a name that is no beginning of another one. -/
theorem expand_simultaneous_stage :
    let env : Environment := fun name =>
      [("STAGE", "prod"), ("ROOT", "infra")].lookup name
    let s := "$ROOT/$\x7bSTAGE\x7d/$STAGE_TMP: $".toList
    (∀ name ∈ bracedNames s, '$' ∉ name) ∧ expand env s = simultaneous env s := by
  intro env s
  have hbraces : ∀ name ∈ bracedNames s, '$' ∉ name := by decide +kernel
  have hharmless : Harmless env s := ⟨by decide +kernel, by decide +kernel⟩
  have hown : ∀ name ∈ bareNames s, ∀ first ∈ claimant? env s name, first = name := by
    decide +kernel
  exact ⟨hbraces, (expand_simultaneous_iff env hbraces).2 hown env (fun _ => rfl) hharmless⟩

/-- **A variable takes the references with longer names**: those to a variable with
    a value of its own, and those to one that is not set. -/
theorem stage_shadows_longer_names :
    let env : Environment := fun name =>
      [("STAGE", "prod"), ("STAGE_DIR", "infra")].lookup name
    let s := "scan:\n  scan_paths: [\"$STAGE\", \"$STAGE_DIR\", \"$STAGE_TMP\"]\n".toList
    (∀ name ∈ bracedNames s, '$' ∉ name) ∧ expand env s ≠ simultaneous env s ∧
      expand env s = "scan:\n  scan_paths: [\"prod\", \"prod_DIR\", \"prod_TMP\"]\n".toList ∧
      simultaneous env s =
        "scan:\n  scan_paths: [\"prod\", \"infra\", \"$STAGE_TMP\"]\n".toList := by
  decide +kernel

end InfraEvidence.Expansion
