/-
  InfraEvidence — replacing the references of a text one after another.

  * `Expansion.expand_eq_foldl`: one round for each reference that the text had at
    first, those with braces before the others;
  * `settled`: a piece after some rounds — what the first reference that is set
    and that the piece begins with makes of it;
  * `expand_eq_settled`: the rounds act on each piece by itself, if no value holds
    a dollar sign and none runs on a dollar sign or a name that it follows.
-/
import Mathlib.Data.List.Chain
import InfraEvidence.Proofs.Settings.Pieces
import InfraEvidence.Proofs.Text.Replaced

namespace InfraEvidence

open Text

namespace Expansion

/-! ## Rounds -/

/-- The references of a text in the order in which they are replaced. -/
def references (s : List Char) : List Piece :=
  (bracedNames s).map Piece.braced ++ (bareNames s).map Piece.bare

/-- The text with one reference replaced wherever it stands. -/
def round (env : Environment) (s : List Char) (r : Piece) : List Char :=
  match r.value? env with
  | some value => replaceAll r.text value.toList s
  | none => s

theorem expand_eq_foldl (env : Environment) (s : List Char) :
    expand env s = (references s).foldl (round env) s := by
  rw [references, List.foldl_append, List.foldl_map, List.foldl_map]
  rfl

/-- What a round makes of a piece that begins with its reference. -/
def Piece.hit (env : Environment) (p r : Piece) : Option (List Char) :=
  if r.text.isPrefixOf p.text then
    (r.value? env).map fun value => value.toList ++ p.text.drop r.text.length
  else none

/-- The piece after the rounds of some references. -/
def settled (env : Environment) (rs : List Piece) (p : Piece) : List Char :=
  (rs.findSome? (p.hit env)).getD p.text

theorem Piece.hit_eq_some {env : Environment} {p r : Piece} {t : List Char}
    (h : p.hit env r = some t) :
    ∃ value after, r.value? env = some value ∧ p.text = r.text ++ after ∧
      t = value.toList ++ after := by
  unfold hit at h
  split at h
  case isFalse => contradiction
  case isTrue hbegins =>
    obtain ⟨value, hvalue, rfl⟩ := Option.map_eq_some_iff.1 h
    obtain ⟨after, hafter⟩ := List.isPrefixOf_iff_prefix.1 hbegins
    exact ⟨value, after, hvalue, hafter.symm, by rw [← hafter, List.drop_left]⟩

theorem Piece.hit_append {env : Environment} {p r : Piece} {value : String} {after : List Char}
    (hvalue : r.value? env = some value) (hp : p.text = r.text ++ after) :
    p.hit env r = some (value.toList ++ after) := by
  rw [hit, if_pos (List.isPrefixOf_iff_prefix.2 ⟨after, hp.symm⟩), hvalue, hp, List.drop_left]
  rfl

/-- Later rounds leave alone what an earlier one has replaced. -/
theorem settled_of_prefix {env : Environment} {rs rs' : List Piece} (h : rs <+: rs') (p : Piece) :
    settled env rs p = p.text ∨ settled env rs p = settled env rs' p := by
  obtain ⟨later, rfl⟩ := h
  rw [settled, settled, List.findSome?_append]
  cases rs.findSome? (p.hit env) with
  | none => exact .inl rfl
  | some t => exact .inr rfl

/-- The text begins, neither with a character of a name nor with a brace. -/
def Blunt (s : List Char) : Prop := ∃ c ∈ s.head?, isIdentRest c = false ∧ c ≠ '{'

instance (s : List Char) : Decidable (Blunt s) :=
  inferInstanceAs (Decidable (∃ c ∈ s.head?, isIdentRest c = false ∧ c ≠ '{'))

/-- What follows the piece could make it a longer reference: it is a lone dollar
    sign, or a name that another one, which is set, begins with. -/
def Piece.Open (env : Environment) (s : List Char) : Piece → Prop
  | braced _ => False
  | bare name => ∃ longer ∈ bareNames s,
      (env (String.ofList longer)).isSome ∧ name <+: longer ∧ longer ≠ name
  | plain c => c = '$'

instance (env : Environment) (s : List Char) : (p : Piece) → Decidable (p.Open env s)
  | .braced _ => inferInstanceAs (Decidable False)
  | .bare name => inferInstanceAs (Decidable (∃ longer ∈ bareNames s,
      (env (String.ofList longer)).isSome ∧ name <+: longer ∧ longer ≠ name))
  | .plain c => inferInstanceAs (Decidable (c = '$'))

/-- No value brings a reference that was not in the text. -/
structure Inert (env : Environment) (s : List Char) : Prop where
  braces : ∀ name ∈ bracedNames s, '$' ∉ name
  values : ∀ r ∈ references s, ∀ value ∈ r.value? env, '$' ∉ value.toList
  apart : (pieces s).IsChain fun p q => p.Open env s →
    settled env (references s) q = q.text ∨ Blunt (settled env (references s) q)

/-! ## The pieces of a text and its references -/

section

variable {s : List Char} (hbraces : ∀ name ∈ bracedNames s, '$' ∉ name)

include hbraces

theorem mem_references {r : Piece} : r ∈ references s ↔ r ∈ pieces s ∧ r.name? ≠ none := by
  cases r <;> simp [references, mem_bracedNames, mem_bareNames hbraces, Piece.name?]

theorem text_eq_cons {p : Piece} (hp : p ∈ pieces s) : ∃ c t, p.text = c :: t ∧ '$' ∉ t := by
  obtain ⟨t, hfirst⟩ := (cut_pieces s).exists_isFirst hp
  cases p with
  | braced name =>
    exact ⟨'$', _, rfl, by simpa using hbraces name (mem_bracedNames.2 hp)⟩
  | bare name => exact ⟨'$', name, rfl, hfirst.1.not_mem_dollar⟩
  | plain c => exact ⟨c, [], rfl, List.not_mem_nil⟩

end

theorem pairwise_references (s : List Char) :
    (references s).Pairwise fun a b => b.bare? = none → a.bare? = none := by
  refine List.pairwise_append.2 ⟨?_, ?_, ?_⟩
  · exact List.pairwise_map.2 (List.pairwise_of_forall fun _ _ _ => rfl)
  · exact List.pairwise_map.2 (List.pairwise_of_forall fun _ _ h => nomatch h)
  · intro a ha b hb h
    obtain ⟨name, -, rfl⟩ := List.mem_map.1 hb
    cases h

/-! ## Where a reference can stand -/

theorem Piece.text_eq_dollar_cons {r : Piece} {s : List Char} (hr : r.IsFirst s)
    (hname : r.name? ≠ none) : ∃ c t, r.text = '$' :: c :: t := by
  cases r with
  | braced name => exact ⟨'{', _, rfl⟩
  | bare name =>
    obtain ⟨c, rest, rfl, -, -⟩ := hr.1
    exact ⟨c, rest, rfl⟩
  | plain c => exact absurd rfl hname

/-- A reference stands at the beginning of a piece, or the piece is a lone dollar
    sign or a shorter name and what follows completes the reference. -/
theorem occurrence_cases {p r : Piece} {s t u : List Char} (hp : p.IsFirst s) (hr : r.IsFirst t)
    (hname : r.name? ≠ none) (h : r.text <+: p.text ++ u) :
    p = r ∨ (∃ name longer, r = .bare name ∧ p = .bare longer ∧ name <+: longer) ∨
      (∃ name c rest, r = .bare (name ++ c :: rest) ∧ p = .bare name ∧ c ∈ u.head?) ∨
      (p = .plain '$' ∧ ∃ c rest, r.text = '$' :: c :: rest ∧ c :: rest <+: u) := by
  cases p with
  | braced m =>
    cases r with
    | braced n =>
      obtain ⟨v, hv⟩ := h
      have hm : bracedName? ('{' :: (m ++ '}' :: u)) = some m :=
        bracedName?_eq_some_iff.2 ⟨u, rfl, hp.1, hp.2⟩
      have hn : bracedName? ('{' :: (m ++ '}' :: u)) = some n :=
        bracedName?_eq_some_iff.2 ⟨v, by simpa [Piece.text, bracedRef] using hv.symm, hr.1, hr.2⟩
      exact .inl (by rw [Option.some.inj (hm.symm.trans hn)])
    | bare n =>
      obtain ⟨c, rest, rfl, hc, -⟩ := hr.1
      have hbrace := (List.cons_prefix_cons.1 (List.cons_prefix_cons.1 h).2).1
      exact absurd (hbrace ▸ hc) (by decide)
    | plain c => exact absurd rfl hname
  | bare m =>
    cases r with
    | braced n =>
      obtain ⟨c, rest, rfl, hc, -⟩ := hp.1
      have hbrace := (List.cons_prefix_cons.1 (List.cons_prefix_cons.1 h).2).1
      exact absurd (hbrace ▸ hc) (by decide)
    | bare n =>
      have hn : n <+: m ++ u := (List.cons_prefix_cons.1 h).2
      rcases List.prefix_or_prefix_of_prefix hn (List.prefix_append m u) with hnm | ⟨rest, rfl⟩
      · exact .inr (.inl ⟨n, m, rfl, rfl, hnm⟩)
      · cases rest with
        | nil => exact .inl (by rw [List.append_nil])
        | cons c rest =>
          obtain ⟨v, hv⟩ := (List.prefix_append_right_inj m).1 hn
          exact .inr (.inr (.inl ⟨m, c, rest, rfl, rfl, by rw [← hv]; rfl⟩))
    | plain c => exact absurd rfl hname
  | plain c =>
    obtain ⟨d, rest, htext⟩ := Piece.text_eq_dollar_cons hr hname
    rw [htext] at h
    obtain ⟨rfl, hrest⟩ := List.cons_prefix_cons.1 h
    exact .inr (.inr (.inr ⟨rfl, d, rest, htext, hrest⟩))

theorem Cut.cons_inv {c : Char} {s : List Char} {ps : List Piece} (h : Cut (c :: s) ps)
    (hc : c ≠ '$') : ∃ qs, ps = .plain c :: qs ∧ Cut s qs := by
  generalize ht : c :: s = t at h
  cases h with
  | nil => contradiction
  | @cons p u qs hp hqs =>
    cases p with
    | plain d =>
      obtain ⟨rfl, rfl⟩ := List.cons.inj ht
      exact ⟨qs, rfl, hqs⟩
    | braced name => exact absurd (List.cons.inj ht).1 hc
    | bare name => exact absurd (List.cons.inj ht).1 hc

section

variable {env : Environment} {s : List Char}

/-- A round hits the pieces that are its reference and, without braces, those with
    longer names. -/
theorem eq_or_bare_of_hit (hbraces : ∀ name ∈ bracedNames s, '$' ∉ name) {p r : Piece}
    (hp : p ∈ pieces s) (hr : r ∈ references s) {t : List Char} (h : p.hit env r = some t) :
    p = r ∨ ∃ name longer, r = .bare name ∧ p = .bare longer ∧ name <+: longer := by
  obtain ⟨-, after, -, htext, -⟩ := Piece.hit_eq_some h
  obtain ⟨hmem, hname⟩ := (mem_references hbraces).1 hr
  obtain ⟨_, hrfirst⟩ := (cut_pieces s).exists_isFirst hmem
  obtain ⟨_, hpfirst⟩ := (cut_pieces s).exists_isFirst hp
  have hbegins : r.text <+: p.text ++ [] := ⟨after, by rw [List.append_nil, htext]⟩
  obtain heq | hbare | ⟨_, _, _, -, -, hc⟩ | ⟨-, _, _, -, hc⟩ :=
    occurrence_cases hpfirst hrfirst hname hbegins
  · exact .inl heq
  · exact .inr hbare
  · cases hc
  · exact absurd (List.prefix_nil.1 hc) (List.cons_ne_nil _ _)

theorem findSome?_hit_eq_none (hbraces : ∀ name ∈ bracedNames s, '$' ∉ name) {rs : List Piece}
    (hrs : ∀ r ∈ rs, r ∈ references s) {p : Piece} (hp : p ∈ pieces s)
    (h : ∀ r ∈ rs, p ≠ r ∧ (r.bare? = none ∨ p.bare? = none)) :
    rs.findSome? (p.hit env) = none := by
  refine List.findSome?_eq_none_iff.2 fun r hr => Option.eq_none_iff_forall_ne_some.2 fun t ht => ?_
  rcases eq_or_bare_of_hit hbraces hp (hrs r hr) ht with heq | ⟨name, longer, rfl, rfl, -⟩
  · exact (h r hr).1 heq
  · rcases (h _ hr).2 with hbare | hbare <;> cases hbare

/-- A piece that no round hits stays as it is. -/
theorem settled_eq_text {rs : List Piece} {p : Piece} (h : rs.findSome? (p.hit env) = none) :
    settled env rs p = p.text := by
  rw [settled, h]
  rfl

/-- The text of the pieces after some rounds begins as before or bluntly, if its
    first piece does. -/
theorem head?_flatMap_settled {rs : List Piece} {t : List Char} {ps : List Piece} (h : Cut t ps)
    (hfirst : ∀ q ∈ ps.head?, settled env rs q = q.text ∨ Blunt (settled env rs q)) {c : Char}
    (hc : c ∈ (ps.flatMap (settled env rs)).head?) :
    c ∈ t.head? ∨ isIdentRest c = false ∧ c ≠ '{' := by
  cases h with
  | nil => cases hc
  | @cons q t qs _ _ =>
    rw [List.flatMap_cons] at hc
    rcases hfirst q rfl with htext | ⟨d, hd, hblunt⟩
    · obtain ⟨d, u, hu⟩ := List.exists_cons_of_ne_nil q.text_ne_nil
      rw [htext, hu] at hc
      exact .inl (by rw [hu]; exact hc)
    · obtain ⟨rest, hrest⟩ := List.head?_eq_some_iff.1 hd
      rw [hrest] at hc
      exact .inr (Option.some.inj hc ▸ hblunt)

/-! ## One round -/

theorem settled_plain (hbraces : ∀ name ∈ bracedNames s, '$' ∉ name) {rs : List Piece}
    (hrs : ∀ r ∈ rs, r ∈ references s) {c : Char} (hc : .plain c ∈ pieces s) :
    settled env rs (.plain c) = [c] :=
  settled_eq_text <| findSome?_hit_eq_none hbraces hrs hc fun r hr =>
    ⟨fun heq => ((mem_references hbraces).1 (hrs r hr)).2 (heq ▸ rfl), .inr rfl⟩

/-- As long as only references with braces have been replaced, a text without a
    closing brace has not changed. -/
theorem flatMap_settled_of_not_mem (hbraces : ∀ name ∈ bracedNames s, '$' ∉ name) {rs : List Piece}
    (hrs : ∀ r ∈ rs, r ∈ references s ∧ r.bare? = none) {t : List Char} {ps : List Piece}
    (h : Cut t ps) (hps : ps <:+ pieces s) (ht : '}' ∉ t) : ps.flatMap (settled env rs) = t := by
  rw [← h.text_eq]
  refine List.flatMap_congr fun p hp => ?_
  refine settled_eq_text <| findSome?_hit_eq_none hbraces (fun r hr => (hrs r hr).1) (hps.subset hp)
    fun r hr => ⟨?_, .inl (hrs r hr).2⟩
  rintro rfl
  cases p with
  | braced name =>
    rw [← h.text_eq] at ht
    exact ht (List.mem_flatMap.2 ⟨_, hp, by simp [Piece.text, bracedRef]⟩)
  | bare name => cases (hrs _ hr).2
  | plain c => exact ((mem_references hbraces).1 (hrs _ hr).1).2 rfl

variable (hbraces : ∀ name ∈ bracedNames s, '$' ∉ name) {earlier later : List Piece} {r : Piece}
  (hrefs : references s = earlier ++ r :: later)

include hbraces hrefs

omit hbraces in
theorem mem_references_next : r ∈ references s := hrefs ▸ List.mem_append_right _ List.mem_cons_self

theorem isFirst_next : r.name? ≠ none ∧ ∃ t, r.IsFirst t := by
  obtain ⟨hmem, hname⟩ := (mem_references hbraces).1 (mem_references_next hrefs)
  exact ⟨hname, (cut_pieces s).exists_isFirst hmem⟩

omit hbraces in
theorem mem_references_of_earlier : ∀ q ∈ earlier, q ∈ references s :=
  fun _ hq => hrefs ▸ List.mem_append_left _ hq

omit hbraces in
theorem bare?_of_earlier (hr : r.bare? = none) : ∀ q ∈ earlier, q.bare? = none := by
  have hpairwise := pairwise_references s
  rw [hrefs, List.pairwise_append] at hpairwise
  exact fun q hq => hpairwise.2.2 q hq r List.mem_cons_self hr

/-- What follows a lone dollar sign and a brace does not come to be a name and a
    closing brace. -/
theorem not_prefix_after_brace {name t : List Char} (hr : r = .braced name) {ps : List Piece}
    (hcut : Cut t ps) (hps : ps <:+ pieces s) (ht : '}' ∈ t → t.head? = some '}') :
    ¬ name ++ ['}'] <+: ps.flatMap (settled env earlier) := by
  intro h
  subst hr
  have hmem := mem_references_of_earlier hrefs
  obtain ⟨-, _, hne, hname⟩ := isFirst_next hbraces hrefs
  by_cases hclose : '}' ∈ t
  · -- the braces are empty, and the name is not
    obtain ⟨t, rfl⟩ := List.head?_eq_some_iff.1 (ht hclose)
    obtain ⟨qs, rfl, -⟩ := hcut.cons_inv (by decide)
    rw [List.flatMap_cons, settled_plain hbraces hmem (hps.subset List.mem_cons_self)] at h
    obtain ⟨d, name, rfl⟩ := List.exists_cons_of_ne_nil hne
    exact hname ((List.cons_prefix_cons.1 h).1 ▸ List.mem_cons_self)
  · have hsame : ps.flatMap (settled env earlier) = t :=
      flatMap_settled_of_not_mem hbraces
        (fun q hq => ⟨hmem q hq, bare?_of_earlier hrefs rfl q hq⟩) hcut hps hclose
    exact hclose (hsame ▸ h.subset (List.mem_append_right _ List.mem_cons_self))

/-- What follows a lone dollar sign does not come to be a reference. -/
theorem not_prefix_after_dollar {t : List Char} {ps : List Piece} (hcut : Cut t ps)
    (hps : ps <:+ pieces s) (ht : NoReference t)
    (hfirst : ∀ q ∈ ps.head?, settled env earlier q = q.text ∨ Blunt (settled env earlier q))
    {c : Char} {rest : List Char} (htext : r.text = '$' :: c :: rest) :
    ¬ c :: rest <+: ps.flatMap (settled env earlier) := by
  intro h
  have hmem := mem_references_of_earlier hrefs
  obtain ⟨hname, u, hr⟩ := isFirst_next hbraces hrefs
  have hc : c ∈ t.head? ∨ isIdentRest c = false ∧ c ≠ '{' := by
    refine head?_flatMap_settled hcut hfirst ?_
    obtain ⟨v, hv⟩ := h
    rw [← hv]
    rfl
  cases r with
  | plain d => exact hname rfl
  | bare name =>
    obtain ⟨d, x, rfl, hd, -⟩ := hr.1
    obtain ⟨rfl, rfl⟩ : d = c ∧ x = rest := by simpa [Piece.text, bareRef] using htext
    rcases hc with hc | ⟨hc, -⟩
    · rw [ht.bare d hc] at hd
      contradiction
    · rw [isIdentRest_of_isIdentStart hd] at hc
      contradiction
  | braced name =>
    obtain ⟨rfl, rfl⟩ : '{' = c ∧ name ++ ['}'] = rest := by
      simpa [Piece.text, bracedRef] using htext
    rcases hc with hc | ⟨-, hc⟩
    case inr => exact hc rfl
    obtain ⟨t, rfl⟩ := List.head?_eq_some_iff.1 hc
    obtain ⟨qs, rfl, hqs⟩ := hcut.cons_inv (by decide)
    rw [List.flatMap_cons, settled_plain hbraces hmem (hps.subset List.mem_cons_self)] at h
    exact not_prefix_after_brace hbraces hrefs rfl hqs ((List.suffix_cons _ _).trans hps)
      (ht.braced t rfl) (List.cons_prefix_cons.1 h).2

/-- A reference stands only where a piece begins with it. -/
theorem prefix_text_of_prefix (hset : (r.value? env).isSome) {p : Piece} {t : List Char}
    {ps : List Piece} (hp : p.IsFirst t) (hcut : Cut t ps) (hps : ps <:+ pieces s)
    (hapart : p.Open env s → ∀ q ∈ ps.head?,
      settled env earlier q = q.text ∨ Blunt (settled env earlier q))
    (h : r.text <+: p.text ++ ps.flatMap (settled env earlier)) : r.text <+: p.text := by
  obtain ⟨hname, _, hr⟩ := isFirst_next hbraces hrefs
  obtain rfl | ⟨name, longer, rfl, rfl, hlonger⟩ | ⟨name, c, rest, rfl, rfl, hc⟩ |
      ⟨rfl, c, rest, htext, hrest⟩ := occurrence_cases hp hr hname h
  · exact List.prefix_rfl
  · exact List.cons_prefix_cons.2 ⟨rfl, hlonger⟩
  · have hmem : name ++ c :: rest ∈ bareNames s :=
      (mem_bareNames hbraces).2 ((mem_references hbraces).1 (mem_references_next hrefs)).1
    have hopen : (Piece.bare name).Open env s :=
      ⟨_, hmem, hset, List.prefix_append _ _, by simp⟩
    have hrest : isIdentRest c = true := hr.1.forall_isIdentRest c (by simp)
    rcases head?_flatMap_settled hcut (hapart hopen) hc with hc | ⟨hc, -⟩
    · rw [hp.2 c hc] at hrest
      contradiction
    · rw [hc] at hrest
      contradiction
  · exact absurd hrest (not_prefix_after_dollar hbraces hrefs hcut hps (hp rfl) (hapart rfl) htext)

omit hbraces

omit hrefs in
theorem not_mem_of_hit (hinert : Inert env s) {p q : Piece} (hp : p ∈ pieces s)
    (hq : q ∈ references s) {t : List Char} (h : p.hit env q = some t) : '$' ∉ t := by
  obtain ⟨value, after, hvalue, htext, rfl⟩ := Piece.hit_eq_some h
  obtain ⟨c, u, hu, hdollar⟩ := text_eq_cons hinert.braces hp
  obtain ⟨d, v, hv⟩ := List.exists_cons_of_ne_nil q.text_ne_nil
  rw [hu, hv] at htext
  rw [(List.cons.inj htext).2] at hdollar
  rw [List.mem_append, not_or]
  exact ⟨hinert.values q hq value hvalue, fun hafter => hdollar (List.mem_append_right _ hafter)⟩

/-- A round at one piece: it has been replaced before, or it begins with the
    reference, or the round passes over it. -/
theorem replaceAll_settled_append (hinert : Inert env s) {value : String}
    (hvalue : r.value? env = some value) {p : Piece} (hp : p ∈ pieces s) {u : List Char}
    (hseam : r.text <+: p.text ++ u → r.text <+: p.text) :
    replaceAll r.text value.toList (settled env earlier p ++ u) =
      settled env (earlier ++ [r]) p ++ replaceAll r.text value.toList u := by
  have hmem := mem_references_of_earlier hrefs
  obtain ⟨hname, _, hr⟩ := isFirst_next hinert.braces hrefs
  have hdollar : r.text.head? = some '$' := by
    obtain ⟨c, v, hv⟩ := Piece.text_eq_dollar_cons hr hname
    rw [hv]
    rfl
  rw [settled, settled, List.findSome?_append]
  cases hearlier : earlier.findSome? (p.hit env) with
  | some t =>
    obtain ⟨q, hq, hhit⟩ := List.exists_of_findSome?_eq_some hearlier
    exact replaceAll_append hdollar (not_mem_of_hit hinert hp (hmem q hq) hhit) u
  | none =>
    rw [Option.none_or, List.findSome?_singleton]
    by_cases hbegins : r.text <+: p.text
    · obtain ⟨after, hafter⟩ := hbegins
      have hhit := Piece.hit_append hvalue hafter.symm
      have hrest : '$' ∉ value.toList ++ after :=
        not_mem_of_hit hinert hp (mem_references_next hrefs) hhit
      rw [hhit, Option.getD_none, Option.getD_some, ← hafter, List.append_assoc,
        replaceAll_occurrence r.text_ne_nil, List.append_assoc,
        replaceAll_append hdollar fun h => hrest (List.mem_append_right _ h)]
    · have hmiss : p.hit env r = none := if_neg (by rwa [List.isPrefixOf_iff_prefix])
      obtain ⟨c, v, hv, hrest⟩ := text_eq_cons hinert.braces hp
      have hpass : ¬ r.text <+: c :: (v ++ u) := by
        rw [← List.cons_append, ← hv]
        exact fun h => hbegins (hseam h)
      rw [hmiss, Option.getD_none, hv, List.cons_append, replaceAll_cons hpass,
        replaceAll_append hdollar hrest, List.cons_append]

/-- A round acts on each piece by itself. -/
theorem round_flatMap_settled (hinert : Inert env s) {t : List Char} {ps : List Piece}
    (hcut : Cut t ps) (hps : ps <:+ pieces s) :
    round env (ps.flatMap (settled env earlier)) r = ps.flatMap (settled env (earlier ++ [r])) := by
  rw [round]
  cases hvalue : r.value? env with
  | none =>
    refine List.flatMap_congr fun p _ => ?_
    have hmiss : p.hit env r = none := by rw [Piece.hit, hvalue]; simp
    rw [settled, settled, List.findSome?_append, List.findSome?_singleton, hmiss, Option.or_none]
  | some value =>
    induction hcut with
    | nil => rfl
    | @cons p t ps hp hcut ih =>
      have hps' : ps <:+ pieces s := (List.suffix_cons p ps).trans hps
      rw [List.flatMap_cons, List.flatMap_cons, ← ih hps']
      have hp' : p ∈ pieces s := hps.subset List.mem_cons_self
      refine replaceAll_settled_append hrefs hinert hvalue hp' fun h => ?_
      refine prefix_text_of_prefix hinert.braces hrefs (by rw [hvalue]; rfl) hp hcut hps'
        (fun hopen q hq => ?_) h
      have hlast := (hinert.apart.suffix hps).rel_head? hq hopen
      rcases settled_of_prefix ⟨r :: later, hrefs.symm⟩ q with htext | heq
      · exact .inl htext
      · rwa [heq]

end

/-- **The rounds settle each piece by itself.** -/
theorem expand_eq_settled {env : Environment} {s : List Char} (hinert : Inert env s) :
    expand env s = (pieces s).flatMap (settled env (references s)) := by
  have hrounds : ∀ later earlier, references s = earlier ++ later →
      later.foldl (round env) ((pieces s).flatMap (settled env earlier)) =
        (pieces s).flatMap (settled env (references s)) := by
    intro later
    induction later with
    | nil =>
      intro earlier hrefs
      rw [hrefs, List.append_nil, List.foldl_nil]
    | cons r later ih =>
      intro earlier hrefs
      rw [List.foldl_cons, round_flatMap_settled hrefs hinert (cut_pieces s) List.suffix_rfl]
      exact ih _ (by rw [hrefs, List.append_assoc]; rfl)
  have hstart : (pieces s).flatMap (settled env []) = s := (cut_pieces s).text_eq
  rw [expand_eq_foldl, ← hrounds (references s) [] rfl, hstart]

end Expansion

end InfraEvidence
