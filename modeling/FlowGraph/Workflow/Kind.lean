import FlowGraph.Text.Blank
import FlowGraph.Text.Caseless

/-!
# `FlowGraph.Workflow.Kind`: the closed vocabularies of a workflow

The kinds of activities, the two directions of a relation and the kinds of operands, each
with its canonical name. Descriptions may write the names of activity kinds and directions
in any ASCII case and with white space around them. The statements:

* `ActivityKind.ofText?_name`, `Direction.ofText?_name`: a canonical name reads back.
* `ActivityKind.name_injective`: no two kinds share a name.
-/

set_option autoImplicit false

namespace FlowGraph

/-- The processing that an activity performs. -/
inductive ActivityKind where
  | map
  | splitMap
  | reduce
  | filter
  | srQuery
  | mrQuery
  | evaluate
  | load
deriving DecidableEq

namespace ActivityKind

/-- Every kind, in the order of the vocabulary. -/
def all : List ActivityKind :=
  [map, splitMap, reduce, filter, srQuery, mrQuery, evaluate, load]

/-- The canonical name. -/
def name : ActivityKind → String
  | map => "MAP"
  | splitMap => "SPLIT_MAP"
  | reduce => "REDUCE"
  | filter => "FILTER"
  | srQuery => "SR_QUERY"
  | mrQuery => "MR_QUERY"
  | evaluate => "EVALUATE"
  | load => "LOAD"

/-- The kind whose name a text is, up to case and surrounding white space. -/
def ofText? (s : String) : Option ActivityKind :=
  all.find? (fun k => Text.sameLetters k.name (Text.trim s))

/-- The list of kinds is complete. -/
theorem mem_all (k : ActivityKind) : k ∈ all := by cases k <;> decide

/-- No two kinds have one name. -/
theorem name_injective {k l : ActivityKind} (h : k.name = l.name) : k = l := by
  cases k <;> cases l <;> first | rfl | exact absurd h (by decide)

end ActivityKind

/-- The direction of a relation, seen from its activity. -/
inductive Direction where
  | input
  | output
deriving DecidableEq

namespace Direction

/-- Both directions, inputs first. -/
def all : List Direction := [input, output]

/-- The canonical name. -/
def name : Direction → String
  | input => "INPUT"
  | output => "OUTPUT"

/-- The name of the attribute by which a field joins a relation in this direction. -/
def word : Direction → String
  | input => "input"
  | output => "output"

/-- The direction whose name a text is, up to case and surrounding white space. -/
def ofText? (s : String) : Option Direction :=
  all.find? (fun d => Text.sameLetters d.name (Text.trim s))

end Direction

/-- What a list of operands means. -/
inductive OperandKind where
  /-- Fields that a reducing activity aggregates on. -/
  | aggregationField
  /-- Terms that an evaluating activity checks. -/
  | minterm
deriving DecidableEq

namespace OperandKind

/-- Every kind, in the order of the vocabulary. -/
def all : List OperandKind := [aggregationField, minterm]

/-- The canonical name. -/
def name : OperandKind → String
  | aggregationField => "AGREG_FIELD"
  | minterm => "MINTERM"

end OperandKind

/-- The kind of operands that an activity takes, if it takes any. -/
def ActivityKind.operandKind? : ActivityKind → Option OperandKind
  | .reduce => some .aggregationField
  | .evaluate => some .minterm
  | _ => none

/-- A kind is read from its name. -/
theorem ActivityKind.ofText?_name (k : ActivityKind) : ofText? k.name = some k := by
  cases k <;> decide +kernel

/-- A direction is read from its name. -/
theorem Direction.ofText?_name (d : Direction) : ofText? d.name = some d := by
  cases d <;> decide +kernel

end FlowGraph
