/-!
# `FlowGraph.Data.Basic`: structured data to be written out

The values that the text formats of this library write: numbers, texts, sequences, and
mappings whose entries are ordered. What is not there is left out of its mapping, so there is
no value for it.
-/

set_option autoImplicit false

namespace FlowGraph

/-- A value to be written out. -/
inductive Data where
  | number (n : Nat)
  | text (s : String)
  | sequence (items : List Data)
  | mapping (entries : List (String × Data))

namespace Data

/-- The entry of a text that may be missing. -/
def optionalText (key : String) : Option String → List (String × Data)
  | some s => [(key, .text s)]
  | none => []

/-- The entry of a list that is left out where it is empty. -/
def optionalMapping (key : String) : List (String × Data) → List (String × Data)
  | [] => []
  | entries => [(key, .mapping entries)]

end Data

end FlowGraph
