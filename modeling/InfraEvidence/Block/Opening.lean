/-
  InfraEvidence — the lines that open blocks.

  * `Opening.parse? k s`: the type and the name that a trimmed line `s` gives
    to a block of the kind `k`, if the line opens one:
      `resource "T" "N" {`, `module "N" {`, `data "A" "B" {`, `data "A" {`,
      `locals {`, each followed by anything.
    Words and labels are separated by at least one blank, a label is neither
    empty nor holds a quote, and blanks before the brace are optional.
-/
import InfraEvidence.Block.Kind
import InfraEvidence.Text.Search

namespace InfraEvidence

open Text

/-- The type and the name that an opening line gives. -/
structure Opening where
  /-- The type -/
  type : List Char
  /-- The name -/
  name : List Char
deriving DecidableEq

namespace Opening

/-- What follows at least one blank. -/
def blanks? : List Char → Option (List Char)
  | [] => none
  | c :: rest => if isBlank c then some (trimStart rest) else none

/-- The label between quotes at the beginning, and what follows it. -/
def label? : List Char → Option (List Char × List Char)
  | '"' :: rest =>
    match rest.takeWhile (· != '"'), rest.dropWhile (· != '"') with
    | c :: label, _ :: after => some (c :: label, after)
    | _, _ => none
  | _ => none

/-- What follows opens the body: a brace, after any blanks. -/
def opensBody (s : List Char) : Bool := (trimStart s).head? == some '{'

/-- A label after at least one blank, and what follows it. -/
def blankLabel? (s : List Char) : Option (List Char × List Char) := (blanks? s).bind label?

/-- The opening of a block of kind `k` that the trimmed line `s` is. -/
def parse? (k : BlockKind) (s : List Char) : Option Opening := do
  let s ← dropLeading? k.keyword.toList s
  match k with
  | .resource =>
    let (type, s) ← blankLabel? s
    let (name, s) ← blankLabel? s
    if opensBody s then some ⟨type, name⟩ else none
  | .moduleCall =>
    let (name, s) ← blankLabel? s
    if opensBody s then some ⟨k.keyword.toList, name⟩ else none
  | .dataSource =>
    let (first, s) ← blankLabel? s
    if opensBody s then some ⟨"data_source".toList, first⟩
    else
      let (name, s) ← blankLabel? s
      if opensBody s then some ⟨first, name⟩ else none
  | .locals => if opensBody s then some ⟨k.keyword.toList, "local_values".toList⟩ else none

end Opening

end InfraEvidence
