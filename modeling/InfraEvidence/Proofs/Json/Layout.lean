/-
  InfraEvidence — the layouts of structured values.

  * `JsonValue.yields_compact`, `JsonValue.yields_prettyAt`: one line and many
    lines have the same tokens, those of the value;
  * `JsonValue.read?_render`: a written value is read back, in either layout.

  Items and fields are read together with what comes after them, since a number
  ends only there.
-/
import InfraEvidence.Proofs.Json.Value

namespace InfraEvidence

namespace JsonValue

open Json

theorem yields_comma {cs : List Char} {ts : List Token} (isFirst : Bool) (h : Yields cs ts) :
    Yields ((if isFirst then [] else [',']) ++ cs) ((if isFirst then [] else [.comma]) ++ ts) := by
  cases isFirst with
  | true => exact h
  | false => exact h.mark rfl

theorem yields_newLine {cs : List Char} {ts : List Token} (level : Nat) (h : Yields cs ts) :
    Yields (newLine level ++ cs) ts := by
  have hblanks : ∀ n, Yields (List.replicate n ' ' ++ cs) ts := by
    intro n
    induction n with
    | zero => exact h
    | succ n ih => exact ih.blank rfl
  exact (hblanks (2 * level)).blank rfl

theorem endsWord_cons {c : Char} (hc : isInner c = false) (cs : List Char) :
    EndsWord (c :: cs) := by
  rintro d ⟨⟩
  exact hc

theorem endsWord_compactItems (items : List JsonValue) {cs : List Char} (h : EndsWord cs) :
    EndsWord (compactItems false items ++ cs) := by
  cases items with
  | nil => exact h
  | cons v items => exact endsWord_cons rfl _

theorem endsWord_compactFields (fields : List (String × JsonValue)) {cs : List Char}
    (h : EndsWord cs) : EndsWord (compactFields false fields ++ cs) := by
  cases fields with
  | nil => exact h
  | cons e fields => exact endsWord_cons rfl _

mutual

/-- **One line** has the tokens of the value. -/
theorem yields_compact (v : JsonValue) : Yields v.compact v.tokens := by
  cases v with
  | number n => exact yields_digits n
  | text s => exact yields_quoted s
  | list items =>
    have hend : Yields [']'] [.endList] := yields_nil.mark rfl
    exact (yields_compactItems true items hend (endsWord_cons rfl [])).mark rfl
  | object fields =>
    have hend : Yields ['}'] [.endObject] := yields_nil.mark rfl
    exact (yields_compactFields true fields hend (endsWord_cons rfl [])).mark rfl

theorem yields_compactItems (isFirst : Bool) (items : List JsonValue) {cs : List Char}
    {ts : List Token} (h : Yields cs ts) (hc : EndsWord cs) :
    Yields (compactItems isFirst items ++ cs) (itemTokens isFirst items ++ ts) := by
  cases items with
  | nil => exact h
  | cons v items =>
    have hrest := yields_compactItems false items h hc
    have hv := (yields_compact v).append hrest (endsWord_compactItems items hc)
    rw [compactItems, itemTokens, List.append_assoc, List.append_assoc, List.append_assoc,
      List.append_assoc]
    exact yields_comma isFirst hv

theorem yields_compactFields (isFirst : Bool) (fields : List (String × JsonValue))
    {cs : List Char} {ts : List Token} (h : Yields cs ts) (hc : EndsWord cs) :
    Yields (compactFields isFirst fields ++ cs) (fieldTokens isFirst fields ++ ts) := by
  cases fields with
  | nil => exact h
  | cons e fields =>
    obtain ⟨k, v⟩ := e
    have hrest := yields_compactFields false fields h hc
    have hv := (yields_compact v).append hrest (endsWord_compactFields fields hc)
    have hcolon : Yields (':' :: _) (.colon :: _) := hv.mark rfl
    have hk := (yields_quoted k).append hcolon (endsWord_cons rfl _)
    have hcomma := yields_comma isFirst hk
    simpa [compactFields, fieldTokens] using hcomma

end

theorem endsWord_newLine (level : Nat) (cs : List Char) : EndsWord (newLine level ++ cs) :=
  endsWord_cons rfl _

theorem endsWord_prettyItems (level : Nat) (items : List JsonValue) {cs : List Char}
    (h : EndsWord cs) : EndsWord (prettyItems level false items ++ cs) := by
  cases items with
  | nil => exact h
  | cons v items => exact endsWord_cons rfl _

theorem endsWord_prettyFields (level : Nat) (fields : List (String × JsonValue))
    {cs : List Char} (h : EndsWord cs) : EndsWord (prettyFields level false fields ++ cs) := by
  cases fields with
  | nil => exact h
  | cons e fields => exact endsWord_cons rfl _

mutual

/-- **Many lines** have the same tokens. -/
theorem yields_prettyAt (level : Nat) (v : JsonValue) : Yields (v.prettyAt level) v.tokens := by
  cases v with
  | number n => exact yields_digits n
  | text s => exact yields_quoted s
  | list items =>
    cases items with
    | nil => exact (yields_nil.mark rfl).mark rfl
    | cons v items =>
      have hend : Yields (newLine level ++ [']']) [.endList] :=
        yields_newLine level (yields_nil.mark rfl)
      have hitems := yields_prettyItems (level + 1) true (v :: items) hend
        (endsWord_newLine level _)
      have hopen : Yields ('[' :: _) (.beginList :: _) := hitems.mark rfl
      simpa [prettyAt, tokens] using hopen
  | object fields =>
    cases fields with
    | nil => exact (yields_nil.mark rfl).mark rfl
    | cons e fields =>
      have hend : Yields (newLine level ++ ['}']) [.endObject] :=
        yields_newLine level (yields_nil.mark rfl)
      have hfields := yields_prettyFields (level + 1) true (e :: fields) hend
        (endsWord_newLine level _)
      have hopen : Yields ('{' :: _) (.beginObject :: _) := hfields.mark rfl
      simpa [prettyAt, tokens] using hopen

theorem yields_prettyItems (level : Nat) (isFirst : Bool) (items : List JsonValue)
    {cs : List Char} {ts : List Token} (h : Yields cs ts) (hc : EndsWord cs) :
    Yields (prettyItems level isFirst items ++ cs) (itemTokens isFirst items ++ ts) := by
  cases items with
  | nil => exact h
  | cons v items =>
    have hrest := yields_prettyItems level false items h hc
    have hv := (yields_prettyAt level v).append hrest (endsWord_prettyItems level items hc)
    have hcomma := yields_comma isFirst (yields_newLine level hv)
    simpa [prettyItems, itemTokens] using hcomma

theorem yields_prettyFields (level : Nat) (isFirst : Bool) (fields : List (String × JsonValue))
    {cs : List Char} {ts : List Token} (h : Yields cs ts) (hc : EndsWord cs) :
    Yields (prettyFields level isFirst fields ++ cs) (fieldTokens isFirst fields ++ ts) := by
  cases fields with
  | nil => exact h
  | cons e fields =>
    obtain ⟨k, v⟩ := e
    have hrest := yields_prettyFields level false fields h hc
    have hv := (yields_prettyAt level v).append hrest (endsWord_prettyFields level fields hc)
    have hblank : Yields (' ' :: _) _ := hv.blank rfl
    have hcolon : Yields (':' :: _) (.colon :: _) := hblank.mark rfl
    have hk := (yields_quoted k).append hcolon (endsWord_cons rfl _)
    have hcomma := yields_comma isFirst (yields_newLine level hk)
    simpa [prettyFields, fieldTokens] using hcomma

end

/-- **A written value is read back**, in either layout. -/
theorem read?_render (isPretty : Bool) (v : JsonValue) :
    Json.read? (v.render isPretty) = some v.toJson := by
  have htokens : Json.tokens? (v.render isPretty).toList = some v.tokens := by
    rw [render, String.toList_ofList]
    cases isPretty with
    | true => exact (yields_prettyAt 0 v).tokens?_eq
    | false => exact (yields_compact v).tokens?_eq
  rw [Json.read?, htokens, Option.bind_some, ofTokens?_tokens]

end JsonValue

end InfraEvidence
