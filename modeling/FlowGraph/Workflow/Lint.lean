import FlowGraph.Decimal.Basic
import FlowGraph.Workflow.Basic

/-!
# `FlowGraph.Workflow.Lint`: structural findings that stop nothing

`Workflow.lint` lists what looks wrong in a workflow that is well formed: activities that
nothing flows into or out of, relations without fields, reductions without an aggregation
field, and workloads that are no numbers. Findings come activity by activity, and within one
activity in the order of its parts.
-/

set_option autoImplicit false

namespace FlowGraph

/-- A structural finding. -/
inductive Finding where
  | emptyWorkflow
  | noInputRelations (activity : String)
  | noOutputRelations (activity : String)
  | emptyRelation (activity relation : String)
  | noAggregationField (activity : String)
  | invalidWorkload (activity workload : String)
deriving DecidableEq

namespace Finding

/-- The sentence shown to the user. -/
def message : Finding → String
  | emptyWorkflow => "Workflow has no activities"
  | noInputRelations activity => s!"Activity '{activity}' has no input relation"
  | noOutputRelations activity => s!"Activity '{activity}' has no output relation"
  | emptyRelation activity relation =>
      s!"Activity '{activity}': relation '{relation}' has no fields"
  | noAggregationField activity =>
      s!"REDUCE activity '{activity}' declares no aggregation field"
  | invalidWorkload activity workload =>
      s!"Activity '{activity}': workload '{workload}' is not a non-negative number"

/-- The finding that an activity has no relation in a direction. -/
def noRelations (activity : String) : Direction → Finding
  | .input => noInputRelations activity
  | .output => noOutputRelations activity

end Finding

/-- Whether a workload, trimmed, is a numeral of a number that rounds to a finite double not
below zero. The names of infinities and of no number are not numerals. -/
def isWorkload (s : String) : Bool :=
  (Decimal.read? (Text.trimChars s.toList)).any Decimal.isNonnegativeDouble

namespace Activity

/-- The findings about the relations of one direction. -/
def lintRelations (a : Activity) (d : Direction) : List Finding :=
  (if (a.relations d).isEmpty then [Finding.noRelations a.tag d] else []) ++
    ((a.relations d).filter (fun r => r.fields.isEmpty)).map
      (fun r => .emptyRelation a.tag r.name)

/-- The findings about one activity. -/
def lint (a : Activity) : List Finding :=
  a.lintRelations .input ++ a.lintRelations .output ++
    (if a.kind = .reduce ∧ a.operandsOf .aggregationField = [] then
      [.noAggregationField a.tag] else []) ++
    (if isWorkload a.workload then [] else [.invalidWorkload a.tag a.workload])

end Activity

/-- The findings about a workflow. -/
def Workflow.lint (w : Workflow) : List Finding :=
  if w.activities.isEmpty then [.emptyWorkflow]
  else w.activities.values.flatMap Activity.lint

end FlowGraph
