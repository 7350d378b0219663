/-
  InfraEvidence — the structure of a YAML document.

  * `Yaml.Node`: scalars, sequences, mappings and aliases, each with the tag
    and the anchor written before it;
  * `Yaml.node?`: the node that some tokens begin with, and the rest of the
    tokens; what is left out is an empty plain scalar;
  * `Yaml.document?`: the node of a text that is one document (`none` inside
    for a text without any).
-/
import InfraEvidence.Yaml.Lexer

namespace InfraEvidence

namespace Yaml

/-- What may be written before a node. -/
structure Mark where
  /-- The tag, in full -/
  tag : Option String := none
  /-- The anchor -/
  anchor : Option String := none

/-- A node of a document. -/
inductive Node where
  | scalar (mark : Mark) (style : ScalarStyle) (text : String)
  | sequence (mark : Mark) (items : List Node)
  | mapping (mark : Mark) (entries : List (Node × Node))
  | alias (name : String)

/-- The mark of a scalar that is written out: there the tag `!` says nothing. -/
def Mark.ofScalar (m : Mark) : Mark := if m.tag = some "!" then { m with tag := none } else m

/-- The node that stands for one that is left out. -/
def Node.empty (mark : Mark) : Node := .scalar mark .plain ""

/-- What the handles of tags stand for. -/
abbrev Handles := List (String × String)

/-- The handles that need no directive. -/
def defaultHandles : Handles := [("!", "!"), ("!!", "tag:yaml.org,2002:")]

/-- A tag in full: its handle has to be known. -/
def resolveTag? (hs : Handles) (handle suffix : String) : Option String :=
  if handle = "" then some suffix else (hs.lookup handle).map (· ++ suffix)

/-- The tag and the anchor before a node, in either order, and the tokens
    after them. -/
def mark? (hs : Handles) : List Token → Option (Mark × List Token)
  | .anchor a :: .tag h s :: ts => (resolveTag? hs h s).map fun t => (⟨some t, some a⟩, ts)
  | .tag h s :: .anchor a :: ts => (resolveTag? hs h s).map fun t => (⟨some t, some a⟩, ts)
  | .anchor a :: ts => some (⟨none, some a⟩, ts)
  | .tag h s :: ts => (resolveTag? hs h s).map fun t => (⟨some t, none⟩, ts)
  | ts => some ({}, ts)

/-- The next token is one of some. -/
def isNext (stops : List Token) (ts : List Token) : Bool := ts.head?.any stops.contains

/-- The tokens before which a value of a block mapping is left out. -/
def mappingStops : List Token := [.key, .value, .blockEnd]

/-- The tokens before which an entry of a block sequence is left out. -/
def sequenceStops : List Token := [.blockEntry, .blockEnd]

/-- The tokens before which an entry of a sequence without indentation is left
    out. -/
def flatStops : List Token := [.blockEntry, .key, .value, .blockEnd]

/-- The form of a sequence or mapping. -/
inductive Form where
  | block
  /-- A block sequence at the column of the mapping around it -/
  | flat
  | flow
deriving DecidableEq

mutual

/-- The node that some tokens begin with.  In a block, block collections are
    admitted (`inBlock`), and as a value of a mapping also a sequence without
    indentation (`asValue`). -/
def node? (hs : Handles) (inBlock asValue : Bool) : Nat → List Token →
    Option (Node × List Token)
  | 0, _ => none
  | fuel + 1, ts =>
    match ts with
    | .alias name :: ts => some (.alias name, ts)
    | ts => do
      let (mark, rest) ← mark? hs ts
      match rest with
      | .scalar style text :: ts => some (.scalar mark.ofScalar style text, ts)
      | .flowSequenceStart :: ts =>
        (flowItems? hs true fuel ts).map fun (items, ts) => (.sequence mark items, ts)
      | .flowMappingStart :: ts =>
        (flowEntries? hs true fuel ts).map fun (entries, ts) => (.mapping mark entries, ts)
      | .blockEntry :: _ =>
        if asValue then
          (items? hs .flat fuel rest).map fun (items, ts) => (.sequence mark items, ts)
        else omitted? mark rest
      | .blockSequenceStart :: ts =>
        if inBlock then
          (items? hs .block fuel ts).map fun (items, ts) => (.sequence mark items, ts)
        else omitted? mark rest
      | .blockMappingStart :: ts =>
        if inBlock then
          (entries? hs fuel ts).map fun (entries, ts) => (.mapping mark entries, ts)
        else omitted? mark rest
      | _ => omitted? mark rest

/-- An empty scalar for a node of which only tag or anchor are written. -/
def omitted? (mark : Mark) (ts : List Token) : Option (Node × List Token) :=
  if mark.tag.isSome || mark.anchor.isSome then some (.empty mark, ts) else none

/-- The entries of a block sequence and the tokens after it. -/
def items? (hs : Handles) (form : Form) : Nat → List Token → Option (List Node × List Token)
  | 0, _ => none
  | fuel + 1, ts =>
    match ts with
    | .blockEntry :: ts => do
      let stops := if form = .block then sequenceStops else flatStops
      let (item, ts) ←
        if isNext stops ts then some (.empty {}, ts) else node? hs true false fuel ts
      let (items, ts) ← items? hs form fuel ts
      return (item :: items, ts)
    | .blockEnd :: rest => some ([], if form = .block then rest else ts)
    | _ => if form = .block then none else some ([], ts)

/-- The entries of a block mapping and the tokens after it. -/
def entries? (hs : Handles) : Nat → List Token → Option (List (Node × Node) × List Token)
  | 0, _ => none
  | fuel + 1, ts =>
    match ts with
    | .key :: ts => do
      let (k, ts) ←
        if isNext mappingStops ts then some (.empty {}, ts) else node? hs true true fuel ts
      let (v, ts) ← value? hs mappingStops true fuel ts
      let (entries, ts) ← entries? hs fuel ts
      return ((k, v) :: entries, ts)
    | .blockEnd :: ts => some ([], ts)
    | _ => none

/-- The value after a key, and the tokens after it. -/
def value? (hs : Handles) (stops : List Token) (inBlock : Bool) : Nat → List Token →
    Option (Node × List Token)
  | 0, _ => none
  | fuel + 1, ts =>
    match ts with
    | .value :: ts =>
      if isNext stops ts then some (.empty {}, ts) else node? hs inBlock inBlock fuel ts
    | ts => some (.empty {}, ts)

/-- The items of a flow sequence and the tokens after it. -/
def flowItems? (hs : Handles) (isFirst : Bool) : Nat → List Token →
    Option (List Node × List Token)
  | 0, _ => none
  | fuel + 1, ts =>
    if isNext [.flowSequenceEnd] ts then some ([], ts.drop 1)
    else if !isFirst && !isNext [.flowEntry] ts then none
    else
      let ts := if isFirst then ts else ts.drop 1
      if isNext [.flowSequenceEnd] ts then some ([], ts.drop 1)
      else do
        let (item, ts) ←
          if isNext [.key] ts then flowPair? hs fuel (ts.drop 1) else node? hs false false fuel ts
        let (items, ts) ← flowItems? hs false fuel ts
        return (item :: items, ts)

/-- A single pair as an item of a flow sequence, after the mark of its key.
    Where the key is left out, the token in its place is passed over. -/
def flowPair? (hs : Handles) : Nat → List Token → Option (Node × List Token)
  | 0, _ => none
  | fuel + 1, ts => do
    let (k, ts) ←
      if isNext [.value, .flowEntry, .flowSequenceEnd] ts then some (.empty {}, ts.drop 1)
      else node? hs false false fuel ts
    let (v, ts) ← value? hs [.flowEntry, .flowSequenceEnd] false fuel ts
    return (.mapping {} [(k, v)], ts)

/-- The entries of a flow mapping and the tokens after it. -/
def flowEntries? (hs : Handles) (isFirst : Bool) : Nat → List Token →
    Option (List (Node × Node) × List Token)
  | 0, _ => none
  | fuel + 1, ts =>
    if isNext [.flowMappingEnd] ts then some ([], ts.drop 1)
    else if !isFirst && !isNext [.flowEntry] ts then none
    else
      let ts := if isFirst then ts else ts.drop 1
      if isNext [.flowMappingEnd] ts then some ([], ts.drop 1)
      else do
        let (k, v, ts) ←
          if isNext [.key] ts then do
            let ts := ts.drop 1
            let (k, ts) ←
              if isNext [.value, .flowEntry, .flowMappingEnd] ts then some (.empty {}, ts)
              else node? hs false false fuel ts
            let (v, ts) ← value? hs [.flowEntry, .flowMappingEnd] false fuel ts
            pure (k, v, ts)
          else do
            let (k, ts) ← node? hs false false fuel ts
            pure (k, .empty {}, ts)
        let (entries, ts) ← flowEntries? hs false fuel ts
        return ((k, v) :: entries, ts)

end

/-! ## Documents -/

/-- The directives before a document: at most one version, 1.1 or 1.2, and
    handles, each at most once. -/
def directives? (version : Bool) (hs : Handles) : List Token → Option (Handles × List Token)
  | .versionDirective major minor :: ts =>
    if version || major != 1 || (minor != 1 && minor != 2) then none else directives? true hs ts
  | .tagDirective handle meaning :: ts =>
    if (hs.lookup handle).isSome then none else directives? version ((handle, meaning) :: hs) ts
  | ts => some (hs, ts)

/-- The tokens that a document may not begin with. -/
def isDocumentMark : Token → Bool
  | .versionDirective .. | .tagDirective .. | .documentStart | .documentEnd | .streamEnd => true
  | _ => false

/-- The content of a document, and the tokens after it. -/
def content? (hs : Handles) (ts : List Token) : Option (Node × List Token) :=
  if ts.head?.any isDocumentMark then some (.empty {}, ts)
  else node? hs true false (4 * ts.length + 4) ts

/-- The document that some tokens are, if there is just one. -/
def documentOf? (ts : List Token) : Option (Option Node) := do
  if isNext [.streamEnd] ts then return none
  let (own, rest) ← directives? false [] ts
  let hs := own ++ defaultHandles.filter fun h => (own.lookup h.1).isNone
  let (n, after) ←
    if isNext [.documentStart] rest then content? hs (rest.drop 1)
    else if own.isEmpty && !(ts.head?.any isDocumentMark) then
      node? hs true false (4 * ts.length + 4) ts
    else none
  if isNext [.streamEnd] (after.dropWhile (· == .documentEnd)) then return some n else none

/-- The document that a text is. -/
def document? (s : List Char) : Option (Option Node) := (tokens? s).bind documentOf?

end Yaml

end InfraEvidence
