import FlowGraph.Data.Yaml
import FlowGraph.Json.Writer
import FlowGraph.Workflow.Basic

/-!
# `FlowGraph.Workflow.Stored`: the form in which workflows are kept

A workflow is stored as a mapping in which activities stand under their keys. Parts that an
activity, a relation or a field may lack are left out where they are missing, and so is an
empty table of operands; lists and the workload are always written.
-/

set_option autoImplicit false

namespace FlowGraph

/-- The stored form of a field. -/
def Field.toData (f : Field) : Data :=
  .mapping <|
    [("name", .text f.name), ("type", .text f.type)] ++
    (match f.decimalPlaces with
    | some n => [("decimal_places", .number n.toNat)]
    | none => []) ++
    Data.optionalText "file_operation" f.fileOperation ++
    Data.optionalText "instrumented" f.instrumented

/-- The stored form of a relation. -/
def Relation.toData (r : Relation) : Data :=
  .mapping <|
    [("name", .text r.name), ("reltype", .text r.direction.name)] ++
    Data.optionalText "dependency" r.dependency ++
    [("fields", .sequence (r.fields.map Field.toData))]

/-- The stored form of an activity. -/
def Activity.toData (a : Activity) : Data :=
  .mapping <|
    [("tag", .text a.tag), ("type", .text a.kind.name)] ++
    Data.optionalText "description" a.description ++
    Data.optionalText "template_dir" a.templateDir ++
    Data.optionalText "activation" a.activation ++
    Data.optionalText "extractor" a.extractor ++
    [("workload", .text a.workload),
      ("input_relations", .sequence (a.inputs.map Relation.toData)),
      ("output_relations", .sequence (a.outputs.map Relation.toData))] ++
    Data.optionalMapping "operands"
      (a.operands.entries.map (fun e => (e.1.name, .sequence (e.2.map .text))))

namespace Workflow

/-- The stored form of a workflow. -/
def toData (w : Workflow) : Data :=
  .mapping <|
    [("tag", .text w.tag)] ++ Data.optionalText "description" w.description ++
    [("activities", .mapping (w.activities.entries.map (fun e => (e.1, e.2.toData))))]

/-- The workflow as JSON text, indented. -/
def toJson (w : Workflow) : String := Json.render .indented w.toData

/-- The workflow as YAML text. -/
def toYaml (w : Workflow) : String := Yaml.render w.toData

end Workflow

end FlowGraph
