import FlowGraph.Text.Caseless
import FlowGraph.Text.Pieces

/-!
# `FlowGraph.Storage.Path`: paths and the formats that their names tell

A path is a text cut at slashes. The extension of its last name is what follows the last dot
of it, unless that dot is the first character of the name and the only one.
-/

set_option autoImplicit false

namespace FlowGraph.Path

/-- The parts between the slashes of a path, empty ones included. -/
def parts (path : String) : List String := (Text.pieces '/' path.toList).map String.ofList

/-- The name that a path ends with. Parts that stay where they are do not count; a path that
ends by going up, or goes nowhere, has none. -/
def fileName? (path : String) : Option String :=
  match ((parts path).filter (fun p => p ≠ "" ∧ p ≠ ".")).getLast? with
  | some ".." => none
  | name? => name?

/-- The extension of the name that a path ends with. -/
def extension? (path : String) : Option String :=
  match fileName? path with
  | none => none
  | some name =>
      match (Text.pieces '.' name.toList).reverse with
      | after :: before :: others =>
          if before = [] ∧ others = [] then none else some (String.ofList after)
      | _ => none

/-- Whether the extension of a path tells that a file is kept as YAML. -/
def isYaml (path : String) : Bool :=
  (extension? path).any (fun e => Text.sameLetters e "yaml" || Text.sameLetters e "yml")

end FlowGraph.Path
