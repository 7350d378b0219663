/-
  InfraEvidence — variables in the text of settings.

  * `Expansion.bracedNames`, `bareNames`: the variables that a text refers to,
    as `${NAME}` and as `$NAME`, from left to right;
  * `Expansion.expand`: the text with the values of the variables that are set:
    first for all references with braces, then for those without, each one
    replaced wherever it stands in the text so far.
-/
import InfraEvidence.Text.Search
import InfraEvidence.Text.Word

namespace InfraEvidence

open Text

/-- The variables that are set, and their values. -/
abbrev Environment := String → Option String

namespace Expansion

/-- The names between `${` and the next `}`.  The counter passes over the
    characters of a reference that has been found. -/
def bracedFrom : Nat → List Char → List (List Char)
  | _, [] => []
  | skip + 1, _ :: s => bracedFrom skip s
  | 0, c :: s =>
    match s with
    | '{' :: rest =>
      let name := rest.takeWhile (· != '}')
      if c = '$' ∧ name ≠ [] ∧ name.length < rest.length then
        name :: bracedFrom (name.length + 2) s
      else bracedFrom 0 s
    | _ => bracedFrom 0 s

/-- The names of the references with braces. -/
def bracedNames (s : List Char) : List (List Char) := bracedFrom 0 s

/-- The names of the references without braces: the longest identifier after
    each dollar sign. -/
def bareNames : List Char → List (List Char)
  | [] => []
  | c :: s =>
    match identifier? s with
    | some (name, _) => if c = '$' then name :: bareNames s else bareNames s
    | none => bareNames s

/-- The text with the value of one variable wherever `ref` stands. -/
def substitute (env : Environment) (s : List Char) (ref name : List Char) : List Char :=
  match env (String.ofList name) with
  | some value => replaceAll ref value.toList s
  | none => s

/-- A reference with braces. -/
def bracedRef (name : List Char) : List Char := '$' :: '{' :: name ++ ['}']

/-- A reference without braces. -/
def bareRef (name : List Char) : List Char := '$' :: name

/-- The text with the values of its variables. -/
def expand (env : Environment) (s : List Char) : List Char :=
  let braced := (bracedNames s).foldl (fun t n => substitute env t (bracedRef n) n) s
  (bareNames s).foldl (fun t n => substitute env t (bareRef n) n) braced

end Expansion

end InfraEvidence
