/-
  InfraEvidence — YAML values with their anchors resolved.

  * `Yaml.Value`: nodes in which an alias is the number of an anchor;
  * `Yaml.Document`: a value, and the values at the anchors;
  * `Value.number?`: numbers the anchors of a node.  The number of an anchor is
    that of the different names before it, and a number that comes again goes
    to the anchor that begins last.  An alias to a name that has not come yet
    is malformed;
  * `Document.follow`: the value that a value stands for;
  * `Document.text?`, `flag?`, `number?`, `items?`, `entries?`: what a value is
    read as.
-/
import InfraEvidence.Yaml.Node

namespace InfraEvidence

namespace Yaml

/-- A node in which aliases are numbers. -/
inductive Value where
  | scalar (tag : Option String) (style : ScalarStyle) (text : String)
  | sequence (tag : Option String) (items : List Value)
  | mapping (tag : Option String) (entries : List (Value × Value))
  | alias (number : Nat)

/-- The anchors so far. -/
structure Anchors where
  /-- The number of the last anchor of each name -/
  numbers : List (String × Nat) := []
  /-- The number of anchors that have begun -/
  begun : Nat := 0
  /-- For each number, which anchor it goes to, and the value there -/
  values : List (Nat × Nat × Value) := []

namespace Anchors

/-- An anchor begins: its number, and which one it is. -/
def start (a : Anchors) (name : String) : (Nat × Nat) × Anchors :=
  let number := a.numbers.length
  let others := a.numbers.filter (·.1 != name)
  ((number, a.begun), { a with numbers := (name, number) :: others, begun := a.begun + 1 })

/-- The value of an anchor is known. -/
def finish (a : Anchors) (number order : Nat) (v : Value) : Anchors :=
  match a.values.lookup number with
  | some (later, _) =>
    if order < later then a
    else { a with values := (number, order, v) :: a.values.filter (·.1 != number) }
  | none => { a with values := (number, order, v) :: a.values }

/-- The anchor that is perhaps written before a node begins. -/
def startMark (a : Anchors) (m : Mark) : Option (Nat × Nat) × Anchors :=
  match m.anchor with
  | some name => let (place, a) := a.start name; (some place, a)
  | none => (none, a)

/-- The value of the node after the anchor that is perhaps there. -/
def finishMark (a : Anchors) (place : Option (Nat × Nat)) (v : Value) : Value × Anchors :=
  match place with
  | some (number, order) => (v, a.finish number order v)
  | none => (v, a)

end Anchors

mutual

/-- Numbers the anchors of a node. -/
def number? (a : Anchors) : Node → Option (Value × Anchors)
  | .alias name => (a.numbers.lookup name).map fun n => (.alias n, a)
  | .scalar m style text =>
    let (place, a) := a.startMark m
    some (a.finishMark place (.scalar m.tag style text))
  | .sequence m items => do
    let (place, a) := a.startMark m
    let (items, a) ← numberItems? a items
    return a.finishMark place (.sequence m.tag items)
  | .mapping m entries => do
    let (place, a) := a.startMark m
    let (entries, a) ← numberEntries? a entries
    return a.finishMark place (.mapping m.tag entries)

/-- Numbers the anchors of some nodes. -/
def numberItems? (a : Anchors) : List Node → Option (List Value × Anchors)
  | [] => some ([], a)
  | n :: ns => do
    let (v, a) ← number? a n
    let (vs, a) ← numberItems? a ns
    return (v :: vs, a)

/-- Numbers the anchors of some pairs of nodes. -/
def numberEntries? (a : Anchors) : List (Node × Node) → Option (List (Value × Value) × Anchors)
  | [] => some ([], a)
  | (k, n) :: ns => do
    let (key, a) ← number? a k
    let (v, a) ← number? a n
    let (vs, a) ← numberEntries? a ns
    return ((key, v) :: vs, a)

end

/-- A value and the values at its anchors. -/
structure Document where
  /-- The value -/
  value : Value
  /-- The values by the numbers of their anchors -/
  anchored : List (Nat × Value)

/-- The document that a text is; a text without one is an empty scalar. -/
def Document.parse? (text : String) : Option Document := do
  let n := (← document? text.toList).getD (.empty {})
  let (v, a) ← Yaml.number? {} n
  return ⟨v, a.values.map fun e => (e.1, e.2.2)⟩

namespace Document

/-- The value that a value stands for. -/
def follow (d : Document) : Value → Option Value
  | .alias n => d.anchored.lookup n
  | v => some v

/-- A text: any scalar, as it is written. -/
def text? (d : Document) (v : Value) : Option String :=
  match d.follow v with
  | some (.scalar _ _ text) => some text
  | _ => none

/-- The text of a scalar that is not quoted: a plain one, or a literal one with
    the tag given. -/
def bareText? (d : Document) (tag : String) (v : Value) : Option String :=
  match d.follow v with
  | some (.scalar _ .plain text) => some text
  | some (.scalar (some t) .literal text) => if t = tag then some text else none
  | _ => none

/-- A truth value. -/
def flag? (d : Document) (v : Value) : Option Bool := do
  match ← d.bareText? "tag:yaml.org,2002:bool" v with
  | "true" | "True" | "TRUE" => some true
  | "false" | "False" | "FALSE" => some false
  | _ => none

/-- The number that digits denote, if it is below `2 ^ 64`. -/
def digits? (base : Nat) (digits : List Char) : Option Nat := do
  if digits.isEmpty then none
  else
    let n ← digits.foldlM (fun n c => do
      let d ← hexValue? c
      if d < base then some (n * base + d) else none) 0
    if n < UInt64.size then some n else none

/-- The bases that a number may be written in, by what is before its digits. -/
def bases : List (List Char × Nat) :=
  [("0x".toList, 16), ("0o".toList, 8), ("0b".toList, 2)]

/-- The number that an unsigned text denotes: decimal without leading zeros, or
    in another base. -/
def unsigned? (s : List Char) : Option Nat :=
  match bases.find? fun b => b.1.isPrefixOf s with
  | some b => digits? b.2 (s.drop 2)
  | none => if s.head? = some '0' ∧ 1 < s.length then none else digits? 10 s

/-- A number in `0 … 2 ^ 64 - 1`, with at most one plus sign. -/
def number? (d : Document) (v : Value) : Option Nat := do
  let text ← d.bareText? "tag:yaml.org,2002:int" v
  match text.toList with
  | '+' :: s => unsigned? s
  | s => unsigned? s

/-- The items of a sequence; an empty plain scalar has none. -/
def items? (d : Document) (v : Value) : Option (List Value) :=
  match d.follow v with
  | some (.sequence _ items) => some items
  | some (.scalar _ .plain "") => some []
  | _ => none

/-- A list of texts. -/
def texts? (d : Document) (v : Value) : Option (List String) := do (← d.items? v).mapM d.text?

/-- The entries of a mapping with their keys as texts; an empty plain scalar has
    none. -/
def entries? (d : Document) (v : Value) : Option (List (String × Value)) := do
  let entries ← match d.follow v with
    | some (.mapping _ entries) => some entries
    | some (.scalar _ .plain "") => some []
    | _ => none
  entries.mapM fun e => (d.text? e.1).map (·, e.2)

/-- The entries of a mapping, of which those named in `fields` come at most
    once; the others do not count. -/
def fields? (d : Document) (fields : List String) (v : Value) : Option (List (String × Value)) := do
  let known := (← d.entries? v).filter fun e => fields.contains e.1
  if (known.map (·.1)).Nodup then some known else none

/-- The value of a field as `read` reads it, or another one where the field is
    not there. -/
def field? {α : Type} (read : Value → Option α) (fields : List (String × Value))
    (name : String) (default : α) : Option α :=
  match fields.lookup name with
  | some v => read v
  | none => some default

end Document

end Yaml

end InfraEvidence
