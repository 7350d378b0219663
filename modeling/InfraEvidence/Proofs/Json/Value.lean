/-
  InfraEvidence — reading structured values.

  * `Json`: the values that a text can stand for;
  * `Json.Reader.step`: the reader takes one token after the other and keeps
    the lists and objects that are open;
  * `Json.read?`: the value of a text, if it is one;
  * `JsonValue.tokens`, `JsonValue.toJson`: what is left of a written value once
    its layout is gone, and the value that it stands for;
  * `JsonValue.ofTokens?_tokens`: the first is read as the second.
-/
import InfraEvidence.Proofs.Json.Token

namespace InfraEvidence

/-- A structured value as it is read. -/
inductive Json where
  | null
  | bool (b : Bool)
  | number (n : Json.Numeral)
  | text (s : String)
  | list (items : List Json)
  /-- The fields in the order of the text -/
  | object (fields : List (String × Json))

namespace Json

/-- A list or an object that is open, with what it has before the value that
    is being read. -/
inductive Frame where
  | list (items : List Json)
  | object (fields : List (String × Json)) (key : String)

/-- What may come next, within the open lists and objects. -/
inductive Reader where
  /-- A value -/
  | value (frames : List Frame)
  /-- The first item of a list, or its end -/
  | item (frames : List Frame)
  /-- The first field of an object, or its end -/
  | field (frames : List Frame)
  /-- The key of another field -/
  | key (fields : List (String × Json)) (frames : List Frame)
  /-- The colon after a key -/
  | colon (fields : List (String × Json)) (key : String) (frames : List Frame)
  /-- What comes after a value -/
  | after (v : Json) (frames : List Frame)

namespace Reader

def begin? (frames : List Frame) : Token → Option Reader
  | .beginList => some (item frames)
  | .beginObject => some (field frames)
  | .null => some (after .null frames)
  | .bool b => some (after (.bool b) frames)
  | .number n => some (after (.number n) frames)
  | .text s => some (after (.text s) frames)
  | .endList | .endObject | .comma | .colon => none

def step : Reader → Token → Option Reader
  | value frames, t => begin? frames t
  | item frames, .endList => some (after (.list []) frames)
  | item frames, t => begin? (.list [] :: frames) t
  | field frames, .endObject => some (after (.object []) frames)
  | field frames, .text k => some (colon [] k frames)
  | key fields frames, .text k => some (colon fields k frames)
  | colon fields k frames, .colon => some (value (.object fields k :: frames))
  | after v (.list items :: frames), .comma => some (value (.list (items ++ [v]) :: frames))
  | after v (.list items :: frames), .endList => some (after (.list (items ++ [v])) frames)
  | after v (.object fields k :: frames), .comma => some (key (fields ++ [(k, v)]) frames)
  | after v (.object fields k :: frames), .endObject =>
    some (after (.object (fields ++ [(k, v)])) frames)
  | _, _ => none

end Reader

/-- The value that some tokens are. -/
def ofTokens? (ts : List Token) : Option Json :=
  match ts.foldlM Reader.step (.value []) with
  | some (.after v []) => some v
  | _ => none

def read? (s : String) : Option Json := (tokens? s.toList).bind ofTokens?

-- no comma after the last item, and no control character in a text
example : (read? "[1, 2, ]").isNone = true := by decide

example : (read? "[\"\x09\"]").isNone = true := by decide

end Json

namespace JsonValue

open Json

mutual

def tokens : JsonValue → List Token
  | number n => [.number (.ofNat n)]
  | text s => [.text s]
  | list items => .beginList :: itemTokens true items ++ [.endList]
  | object fields => .beginObject :: fieldTokens true fields ++ [.endObject]

/-- Items with commas, the first one without. -/
def itemTokens (isFirst : Bool) : List JsonValue → List Token
  | [] => []
  | v :: rest => (if isFirst then [] else [.comma]) ++ tokens v ++ itemTokens false rest

/-- Fields with commas, the first one without. -/
def fieldTokens (isFirst : Bool) : List (String × JsonValue) → List Token
  | [] => []
  | (k, v) :: rest =>
    (if isFirst then [] else [.comma]) ++ .text k :: .colon :: tokens v ++ fieldTokens false rest

end

mutual

def toJson : JsonValue → Json
  | number n => .number (.ofNat n)
  | text s => .text s
  | list items => .list (itemsToJson items)
  | object fields => .object (fieldsToJson fields)

def itemsToJson : List JsonValue → List Json
  | [] => []
  | v :: rest => toJson v :: itemsToJson rest

def fieldsToJson : List (String × JsonValue) → List (String × Json)
  | [] => []
  | (k, v) :: rest => (k, toJson v) :: fieldsToJson rest

end

@[simp]
theorem itemsToJson_eq_map (items : List JsonValue) : itemsToJson items = items.map toJson := by
  induction items with
  | nil => rfl
  | cons v items ih => rw [itemsToJson, ih, List.map_cons]

@[simp]
theorem fieldsToJson_eq_map (fields : List (String × JsonValue)) :
    fieldsToJson fields = fields.map fun e => (e.1, toJson e.2) := by
  induction fields with
  | nil => rfl
  | cons e fields ih => rw [fieldsToJson, ih, List.map_cons]

/-- No value begins with the end of a list. -/
theorem foldlM_item (v : JsonValue) (frames : List Frame) (rest : List Token) :
    (v.tokens ++ rest).foldlM Reader.step (.item frames) =
      (v.tokens ++ rest).foldlM Reader.step (.value (.list [] :: frames)) := by
  cases v <;> simp [tokens, Reader.step]

mutual

/-- **A value is read** where one may come, and the open lists and objects stay. -/
theorem foldlM_tokens (v : JsonValue) (frames : List Frame) :
    v.tokens.foldlM Reader.step (.value frames) = some (.after v.toJson frames) := by
  cases v with
  | number n => rfl
  | text s => rfl
  | list items =>
    cases items with
    | nil => rfl
    | cons v items =>
      have hopen : Reader.step (.value frames) .beginList = some (.item frames) := rfl
      rw [tokens, List.cons_append, foldlM_cons_eq hopen, itemTokens, if_pos rfl, List.nil_append,
        List.append_assoc, foldlM_item, foldlM_append_eq (foldlM_tokens v _), foldlM_itemTokens]
      rfl
  | object fields =>
    cases fields with
    | nil => rfl
    | cons e fields =>
      obtain ⟨k, v⟩ := e
      have hopen : Reader.step (.value frames) .beginObject = some (.field frames) := rfl
      have hkey : Reader.step (.field frames) (.text k) = some (.colon [] k frames) := rfl
      have hcolon : Reader.step (.colon [] k frames) .colon =
        some (.value (.object [] k :: frames)) := rfl
      rw [tokens, List.cons_append, foldlM_cons_eq hopen, fieldTokens, if_pos rfl, List.nil_append,
        List.cons_append, List.cons_append, foldlM_cons_eq hkey, List.cons_append,
        List.cons_append, foldlM_cons_eq hcolon, List.append_assoc,
        foldlM_append_eq (foldlM_tokens v _), foldlM_fieldTokens]
      rfl

/-- The other items of a list and its end. -/
theorem foldlM_itemTokens (items : List JsonValue) (v : Json) (before : List Json)
    (frames : List Frame) :
    (itemTokens false items ++ [Token.endList]).foldlM Reader.step
      (.after v (.list before :: frames)) =
        some (.after (.list (before ++ v :: itemsToJson items)) frames) := by
  cases items with
  | nil => rfl
  | cons w items =>
    have hcomma : Reader.step (.after v (.list before :: frames)) .comma =
      some (.value (.list (before ++ [v]) :: frames)) := rfl
    rw [itemTokens, if_neg Bool.false_ne_true, List.append_assoc, List.append_assoc,
      List.singleton_append, foldlM_cons_eq hcomma, foldlM_append_eq (foldlM_tokens w _),
      foldlM_itemTokens items, itemsToJson, List.append_assoc, List.singleton_append]

/-- The other fields of an object and its end. -/
theorem foldlM_fieldTokens (fields : List (String × JsonValue)) (k : String) (v : Json)
    (before : List (String × Json)) (frames : List Frame) :
    (fieldTokens false fields ++ [Token.endObject]).foldlM Reader.step
      (.after v (.object before k :: frames)) =
        some (.after (.object (before ++ (k, v) :: fieldsToJson fields)) frames) := by
  cases fields with
  | nil => rfl
  | cons e fields =>
    obtain ⟨k', w⟩ := e
    have hcomma : Reader.step (.after v (.object before k :: frames)) .comma =
      some (.key (before ++ [(k, v)]) frames) := rfl
    have hkey : Reader.step (.key (before ++ [(k, v)]) frames) (.text k') =
      some (.colon (before ++ [(k, v)]) k' frames) := rfl
    have hcolon : Reader.step (.colon (before ++ [(k, v)]) k' frames) .colon =
      some (.value (.object (before ++ [(k, v)]) k' :: frames)) := rfl
    rw [fieldTokens, if_neg Bool.false_ne_true, List.append_assoc, List.append_assoc,
      List.singleton_append, foldlM_cons_eq hcomma, List.cons_append, foldlM_cons_eq hkey,
      List.cons_append, foldlM_cons_eq hcolon, foldlM_append_eq (foldlM_tokens w _),
      foldlM_fieldTokens fields, fieldsToJson, List.append_assoc, List.singleton_append]

end

theorem ofTokens?_tokens (v : JsonValue) : ofTokens? v.tokens = some v.toJson := by
  rw [ofTokens?, foldlM_tokens]

end JsonValue

end InfraEvidence
