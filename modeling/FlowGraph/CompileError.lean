/-!
# `FlowGraph.CompileError`: why a description is refused

One constructor per cause, with what it concerns; `CompileError.message` is the sentence
shown to the user.
-/

set_option autoImplicit false

namespace FlowGraph

/-- Why a workflow description, a stored workflow or a request to a reader is refused. -/
inductive CompileError where
  /-- An element lacks a child that it must have. -/
  | missingElement (parent element : String)
  /-- An element lacks an attribute that it must have. -/
  | missingAttribute (element name : String)
  /-- The type of an activity names no kind of activity. -/
  | invalidActivityType (activity value : String)
  /-- The direction of a relation is neither input nor output. -/
  | invalidRelationType (relation value : String)
  /-- The decimal places of a field are no number of 32 bits. -/
  | invalidDecimalPlaces (field value : String)
  /-- Two activities have one tag. -/
  | duplicateActivity (tag : String)
  /-- Two relations of one activity have one name. -/
  | duplicateRelation (activity relation : String)
  /-- A field names a relation that its activity has not declared so far. -/
  | unknownRelation (activity field relation : String) (known : List String)
  /-- A field names an input and an output relation at once. -/
  | ambiguousFieldRelation (activity field input output : String)
  /-- A field names no relation. -/
  | unboundField (activity field : String)
  /-- An aggregation operand is no field of an output relation. -/
  | missingAggregationField (activity field : String)
  /-- A stored activity stands under another key than its tag. -/
  | mismatchedActivityKey (key tag : String)
  /-- A stored dependency is no activity listed earlier. -/
  | invalidDependency (activity relation dependency : String)
  /-- A stored relation stands in the list of the other direction. -/
  | misplacedRelation (activity relation : String)
  /-- Database attributes were asked for before any workflow was compiled. -/
  | notCompiled
deriving DecidableEq

namespace CompileError

/-- The sentence shown to the user. -/
def message : CompileError → String
  | missingElement parent element =>
      s!"Document has no <{element}> element under <{parent}>"
  | missingAttribute element name =>
      s!"Element <{element}> is missing required attribute '{name}'"
  | invalidActivityType activity value =>
      s!"Activity '{activity}' has unknown type '{value}'"
  | invalidRelationType relation value =>
      s!"Relation '{relation}' has unknown reltype '{value}' (expected INPUT or OUTPUT)"
  | invalidDecimalPlaces field value =>
      s!"Field '{field}' has invalid decimalplaces '{value}': " ++
        "expected a non-negative integer"
  | duplicateActivity tag => s!"Activity '{tag}' is declared more than once"
  | duplicateRelation activity relation =>
      s!"Activity '{activity}' declares relation '{relation}' more than once"
  | unknownRelation activity field relation known =>
      s!"The activity {activity} has the following relations: " ++
        "[" ++ ", ".intercalate known ++ "]" ++
        s!". However, the field {field} says it belongs to relation {relation}. " ++
        "Please check your XML."
  | ambiguousFieldRelation activity field input output =>
      s!"Field '{field}' in activity '{activity}' names both input '{input}' " ++
        s!"and output '{output}'"
  | unboundField activity field =>
      s!"Field '{field}' in activity '{activity}' names neither an input nor an output relation"
  | missingAggregationField activity field =>
      s!"Activity '{activity}' aggregates on '{field}', " ++
        "which is not a field of any of its output relations"
  | mismatchedActivityKey key tag => s!"Activity stored under key '{key}' has tag '{tag}'"
  | invalidDependency activity relation dependency =>
      s!"Activity '{activity}': relation '{relation}' names dependency '{dependency}', " ++
        "which is not an activity listed before it"
  | misplacedRelation activity relation =>
      s!"Activity '{activity}': relation '{relation}' is listed under the wrong direction"
  | notCompiled =>
      "Database attributes are only available after a workflow has been compiled"

end CompileError

end FlowGraph
