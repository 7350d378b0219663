/-
  InfraEvidence — dictionaries with their keys in order.

  * `Dict α`: pairs of a key and a value, the keys strictly increasing in the
    order of strings, so that two dictionaries with the same content are equal;
  * `Dict.insert`, `Dict.get?`, `Dict.mapValues`, `Dict.ofList`: the
    operations; a key that is inserted again takes its new value;
  * `Dict.get?_insert`: what a dictionary holds after an insertion;
  * `Dict.get?_mapValues`: and after a change of all of its values;
  * `Dict.ofList_entries`: a dictionary is the one of its own entries.
-/
namespace InfraEvidence

/-- Pairs with strictly increasing keys. -/
structure Dict (α : Type) where
  /-- The pairs, in the order of their keys -/
  entries : List (String × α)
  increasing : entries.Pairwise fun a b => a.1 < b.1

namespace Dict

variable {α β : Type}

/-- The dictionary without entries. -/
def empty : Dict α := ⟨[], .nil⟩

instance : Inhabited (Dict α) := ⟨empty⟩

instance [DecidableEq α] : DecidableEq (Dict α) := fun a b =>
  if h : a.entries = b.entries then isTrue (by cases a; cases b; simp_all)
  else isFalse fun e => h (by rw [e])

/-- `k` with the value `v` among pairs in order. -/
def insertEntry (k : String) (v : α) : List (String × α) → List (String × α)
  | [] => [(k, v)]
  | e :: rest =>
    if k < e.1 then (k, v) :: e :: rest
    else if e.1 < k then e :: insertEntry k v rest
    else (k, v) :: rest

theorem mem_insertEntry {k : String} {v : α} {es : List (String × α)} {e : String × α}
    (h : e ∈ insertEntry k v es) : e = (k, v) ∨ e ∈ es := by
  induction es with
  | nil => simpa [insertEntry] using h
  | cons f es ih =>
    simp only [insertEntry] at h
    split at h
    · simpa using h
    split at h
    · rcases List.mem_cons.1 h with h | h
      · exact Or.inr (by simp [h])
      · rcases ih h with h | h
        · exact Or.inl h
        · exact Or.inr (by simp [h])
    · rcases List.mem_cons.1 h with h | h
      · exact Or.inl h
      · exact Or.inr (by simp [h])

/-- Two keys neither of which is below the other are the same. -/
theorem key_eq {a b : String} (h : ¬ a < b) (h' : ¬ b < a) : a = b :=
  String.le_antisymm (String.not_lt.1 h') (String.not_lt.1 h)

theorem increasing_insertEntry {k : String} {v : α} {es : List (String × α)}
    (h : es.Pairwise fun a b => a.1 < b.1) :
    (insertEntry k v es).Pairwise fun a b => a.1 < b.1 := by
  induction es with
  | nil => simp [insertEntry]
  | cons e es ih =>
    obtain ⟨he, hes⟩ := List.pairwise_cons.1 h
    simp only [insertEntry]
    split
    · next hk =>
      refine List.pairwise_cons.2 ⟨fun x hx => ?_, h⟩
      rcases List.mem_cons.1 hx with rfl | hx
      · exact hk
      · exact String.lt_trans hk (he x hx)
    split
    · next hk =>
      refine List.pairwise_cons.2 ⟨fun x hx => ?_, ih hes⟩
      rcases mem_insertEntry hx with rfl | hx
      · exact hk
      · exact he x hx
    · next h1 h2 =>
      refine List.pairwise_cons.2 ⟨fun x hx => ?_, hes⟩
      rw [key_eq h1 h2]
      exact he x hx

/-- `k` takes the value `v`. -/
def insert (d : Dict α) (k : String) (v : α) : Dict α :=
  ⟨insertEntry k v d.entries, increasing_insertEntry d.increasing⟩

/-- The value of a key. -/
def get? (d : Dict α) (k : String) : Option α := d.entries.lookup k

/-- The keys, in order. -/
def keys (d : Dict α) : List String := d.entries.map (·.1)

/-- The values, in the order of their keys. -/
def values (d : Dict α) : List α := d.entries.map (·.2)

/-- The number of entries. -/
def size (d : Dict α) : Nat := d.entries.length

/-- The same keys, each with the image of its value. -/
def mapValues (f : α → β) (d : Dict α) : Dict β :=
  ⟨d.entries.map fun e => (e.1, f e.2), by
    rw [List.pairwise_map]
    exact d.increasing⟩

/-- The pairs inserted one after the other: a repeated key keeps its last value. -/
def ofList (es : List (String × α)) : Dict α := es.foldl (fun d e => d.insert e.1 e.2) empty

/-- A value changed by `f`, or the value `v` where there was none. -/
def addTo (d : Dict α) (k : String) (f : α → α) (v : α) : Dict α :=
  d.insert k (((d.get? k).map f).getD v)

theorem lookup_insertEntry (k k' : String) (v : α) (es : List (String × α)) :
    (insertEntry k v es).lookup k' = if k' = k then some v else es.lookup k' := by
  induction es with
  | nil => by_cases h : k' = k <;> simp [insertEntry, h]
  | cons e es ih =>
    obtain ⟨ek, ev⟩ := e
    simp only [insertEntry]
    split
    · by_cases h : k' = k
      · simp [h]
      · have hb : (k' == k) = false := by simpa using h
        simp [List.lookup_cons, h, hb]
    split
    · next hek =>
      by_cases h : k' = ek
      · have hne : k' ≠ k := by
          rintro rfl
          exact String.lt_irrefl _ (h ▸ hek)
        have hb : (k' == ek) = true := by simpa using h
        simp [List.lookup_cons, hb, hne]
      · have hb : (k' == ek) = false := by simpa using h
        simp [List.lookup_cons, hb, ih]
    · next h1 h2 =>
      have he : k = ek := key_eq h1 h2
      by_cases h : k' = k
      · simp [h]
      · have hb : (k' == k) = false := by simpa using h
        have hb' : (k' == ek) = false := by rw [← he]; exact hb
        simp [List.lookup_cons, hb, hb', h]

/-- **An insertion sets one key** and leaves every other one alone. -/
theorem get?_insert (d : Dict α) (k k' : String) (v : α) :
    (d.insert k v).get? k' = if k' = k then some v else d.get? k' :=
  lookup_insertEntry k k' v d.entries

theorem lookup_map (f : α → β) (k : String) (es : List (String × α)) :
    (es.map fun e => (e.1, f e.2)).lookup k = (es.lookup k).map f := by
  induction es with
  | nil => rfl
  | cons e es ih =>
    rw [List.map_cons, List.lookup_cons, List.lookup_cons, ih]
    cases k == e.1 <;> rfl

theorem get?_mapValues (f : α → β) (d : Dict α) (k : String) :
    (d.mapValues f).get? k = (d.get? k).map f := lookup_map f k d.entries

theorem mapValues_mapValues {γ : Type} (f : α → β) (g : β → γ) (d : Dict α) :
    (d.mapValues f).mapValues g = d.mapValues (g ∘ f) := by
  simp [mapValues]

theorem lookup_of_mem {es : List (String × α)} {e : String × α}
    (hnodup : (es.map Prod.fst).Nodup) (he : e ∈ es) : es.lookup e.1 = some e.2 := by
  obtain ⟨before, after, rfl⟩ := List.append_of_mem he
  refine List.lookup_eq_some_iff.2 ⟨before, after, rfl, fun f hf => ?_⟩
  rw [List.map_append, List.map_cons, List.nodup_append] at hnodup
  exact bne_iff_ne.2 (hnodup.2.2 f.1 (List.mem_map_of_mem hf) e.1 List.mem_cons_self).symm

theorem mem_of_lookup {es : List (String × α)} {k : String} {v : α} (h : es.lookup k = some v) :
    (k, v) ∈ es := by
  obtain ⟨before, after, rfl, -⟩ := List.lookup_eq_some_iff.1 h
  simp

theorem nodup_keys (d : Dict α) : d.keys.Nodup := by
  refine List.pairwise_map.2 (d.increasing.imp fun {a b} hlt heq => ?_)
  exact String.lt_irrefl a.1 (heq ▸ hlt)

theorem get?_of_mem {d : Dict α} {e : String × α} (he : e ∈ d.entries) :
    d.get? e.1 = some e.2 := lookup_of_mem d.nodup_keys he

theorem mem_of_get? {d : Dict α} {k : String} {v : α} (h : d.get? k = some v) :
    (k, v) ∈ d.entries := mem_of_lookup h

/-- The keys are those that have a value. -/
theorem mem_keys_iff {d : Dict α} {k : String} : k ∈ d.keys ↔ ∃ v, d.get? k = some v := by
  rw [← Option.isSome_iff_exists, get?, List.lookup_isSome_iff, keys, List.mem_map]
  constructor
  · rintro ⟨e, he, rfl⟩
    exact ⟨e, he, beq_self_eq_true _⟩
  · rintro ⟨e, he, hkey⟩
    exact ⟨e, he, (beq_iff_eq.1 hkey).symm⟩

theorem eq_of_entries {d d' : Dict α} (h : d.entries = d'.entries) : d = d' := by
  cases d
  cases d'
  cases h
  rfl

theorem insertEntry_of_last {k : String} {v : α} {es : List (String × α)}
    (h : ∀ e ∈ es, e.1 < k) : insertEntry k v es = es ++ [(k, v)] := by
  induction es with
  | nil => rfl
  | cons e es ih =>
    have hlast : e.1 < k := h e List.mem_cons_self
    rw [insertEntry, if_neg (String.lt_asymm hlast), if_pos hlast,
      ih fun x hx => h x (List.mem_cons_of_mem _ hx), List.cons_append]

theorem entries_foldl_insert {es : List (String × α)} {d : Dict α}
    (h : (d.entries ++ es).Pairwise fun a b => a.1 < b.1) :
    (es.foldl (fun d e => d.insert e.1 e.2) d).entries = d.entries ++ es := by
  induction es generalizing d with
  | nil => simp
  | cons e es ih =>
    have hlast : (d.insert e.1 e.2).entries = d.entries ++ [e] :=
      insertEntry_of_last fun x hx => (List.pairwise_append.1 h).2.2 x hx e List.mem_cons_self
    have hstep := ih (d := d.insert e.1 e.2) (by rw [hlast, List.append_assoc]; exact h)
    rw [List.foldl_cons, hstep, hlast, List.append_assoc, List.singleton_append]

/-- A dictionary is the one of its own entries. -/
theorem ofList_entries (d : Dict α) : ofList d.entries = d :=
  eq_of_entries (entries_foldl_insert d.increasing)

end Dict

end InfraEvidence
