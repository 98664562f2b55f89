import FlowGraph.Json.Decode
import FlowGraph.Workflow.Stored

/-!
# `FlowGraph.Workflow.Restore`: workflows from their stored form

A stored workflow is first read as a table of activities that may break any rule, a
`StoredWorkflow`. `StoredWorkflow.restore` then builds the workflow entry by entry and
refuses the first that breaks one: the key must be the tag; each relation must stand in the
list of its direction, under a name of its own, and may depend only on an activity that was
listed before.
-/

set_option autoImplicit false

namespace FlowGraph

/-! ### Records -/

/-- What is known of a field while it is read. -/
structure DraftField where
  name : Option String := none
  type : Option String := none
  decimalPlaces : Option UInt32 := none
  fileOperation : Option String := none
  instrumented : Option String := none

/-- How a field is read. -/
def Field.recordType : Json.RecordType DraftField Field where
  name := "Field"
  fields := ["name", "type", "decimal_places", "file_operation", "instrumented"]
  start := {}
  put r key t :=
    match key with
    | "name" => return { r with name := some (← Json.Decoder.text t) }
    | "type" => return { r with type := some (← Json.Decoder.text t) }
    | "decimal_places" =>
        return { r with decimalPlaces := ← Json.Decoder.optional Json.Decoder.uint32 t }
    | "file_operation" =>
        return { r with fileOperation := ← Json.Decoder.optional Json.Decoder.text t }
    | "instrumented" =>
        return { r with instrumented := ← Json.Decoder.optional Json.Decoder.text t }
    | _ => return r
  finish r :=
    match r.name, r.type with
    | none, _ => .error "name"
    | _, none => .error "type"
    | some name, some type =>
        .ok ⟨name, type, r.decimalPlaces, r.fileOperation, r.instrumented⟩

/-- The directions by their names. -/
def Direction.byName : List (String × Direction) := all.map (fun d => (d.name, d))

/-- The kinds of activities by their names. -/
def ActivityKind.byName : List (String × ActivityKind) := all.map (fun k => (k.name, k))

/-- The kinds of operands by their names. -/
def OperandKind.byName : List (String × OperandKind) := all.map (fun k => (k.name, k))

/-- What is known of a relation while it is read. -/
structure DraftRelation where
  name : Option String := none
  direction : Option Direction := none
  dependency : Option String := none
  fields : List Field := []

/-- How a relation is read. -/
def Relation.recordType : Json.RecordType DraftRelation Relation where
  name := "Relation"
  fields := ["name", "reltype", "dependency", "fields"]
  start := {}
  put r key t :=
    match key with
    | "name" => return { r with name := some (← Json.Decoder.text t) }
    | "reltype" =>
        return { r with direction := some (← Json.Decoder.variant Direction.byName t) }
    | "dependency" =>
        return { r with dependency := ← Json.Decoder.optional Json.Decoder.text t }
    | "fields" => return { r with fields := ← Json.Decoder.list Field.recordType.decoder t }
    | _ => return r
  finish r :=
    match r.name, r.direction with
    | none, _ => .error "name"
    | _, none => .error "reltype"
    | some name, some direction => .ok ⟨name, direction, r.dependency, r.fields⟩

/-- What is known of an activity while it is read. -/
structure DraftActivity where
  tag : Option String := none
  kind : Option ActivityKind := none
  description : Option String := none
  templateDir : Option String := none
  activation : Option String := none
  extractor : Option String := none
  workload : String := Activity.defaultWorkload
  inputs : List Relation := []
  outputs : List Relation := []
  operands : Table OperandKind (List String) := .empty

/-- How an activity is read. -/
def Activity.recordType : Json.RecordType DraftActivity Activity where
  name := "Activity"
  fields := ["tag", "type", "description", "template_dir", "activation", "extractor",
    "workload", "input_relations", "output_relations", "operands"]
  start := {}
  put r key t :=
    match key with
    | "tag" => return { r with tag := some (← Json.Decoder.text t) }
    | "type" =>
        return { r with kind := some (← Json.Decoder.variant ActivityKind.byName t) }
    | "description" =>
        return { r with description := ← Json.Decoder.optional Json.Decoder.text t }
    | "template_dir" =>
        return { r with templateDir := ← Json.Decoder.optional Json.Decoder.text t }
    | "activation" =>
        return { r with activation := ← Json.Decoder.optional Json.Decoder.text t }
    | "extractor" =>
        return { r with extractor := ← Json.Decoder.optional Json.Decoder.text t }
    | "workload" => return { r with workload := ← Json.Decoder.text t }
    | "input_relations" =>
        return { r with inputs := ← Json.Decoder.list Relation.recordType.decoder t }
    | "output_relations" =>
        return { r with outputs := ← Json.Decoder.list Relation.recordType.decoder t }
    | "operands" =>
        return { r with
          operands := ← Json.Decoder.table (Json.Decoder.ofName OperandKind.byName)
            (Json.Decoder.list Json.Decoder.text) t }
    | _ => return r
  finish r :=
    match r.tag, r.kind with
    | none, _ => .error "tag"
    | _, none => .error "type"
    | some tag, some kind =>
        .ok ⟨tag, kind, r.description, r.templateDir, r.activation, r.extractor, r.workload,
          r.inputs, r.outputs, r.operands⟩

/-- A workflow as it was stored, before its rules are checked. -/
structure StoredWorkflow where
  tag : String
  description : Option String
  activities : Table String Activity

/-- What is known of a stored workflow while it is read. -/
structure DraftWorkflow where
  tag : Option String := none
  description : Option String := none
  activities : Table String Activity := .empty

/-- How a stored workflow is read. -/
def StoredWorkflow.recordType : Json.RecordType DraftWorkflow StoredWorkflow where
  name := "RawWorkflow"
  fields := ["tag", "description", "activities"]
  start := {}
  put r key t :=
    match key with
    | "tag" => return { r with tag := some (← Json.Decoder.text t) }
    | "description" =>
        return { r with description := ← Json.Decoder.optional Json.Decoder.text t }
    | "activities" =>
        return { r with
          activities := ← Json.Decoder.table Except.ok Activity.recordType.decoder t }
    | _ => return r
  finish r :=
    match r.tag with
    | none => .error "tag"
    | some tag => .ok ⟨tag, r.description, r.activities⟩

/-! ### The rules -/

/-- Checks the relations that are listed for one direction of an activity. `known` tells the
activities that may be depended on, `names` the relation names that are taken; answers the
names that are taken afterwards. -/
def Activity.checkRelations (a : Activity) (known : String → Bool) (d : Direction)
    (names : List String) : List Relation → Except CompileError (List String)
  | [] => .ok names
  | r :: rs =>
      if r.direction ≠ d then .error (.misplacedRelation a.tag r.name)
      else if r.name ∈ names then .error (.duplicateRelation a.tag r.name)
      else
        match r.dependency with
        | some tag =>
            if known tag then checkRelations a known d (r.name :: names) rs
            else .error (.invalidDependency a.tag r.name tag)
        | none => checkRelations a known d (r.name :: names) rs

/-- The workflow with one more stored entry, if the entry keeps the rules. -/
def Workflow.restoreEntry (w : Workflow) (key : String) (a : Activity) :
    Except CompileError Workflow := do
  if key ≠ a.tag then throw (.mismatchedActivityKey key a.tag)
  let known (tag : String) : Bool := (w.get? tag).isSome
  let names ← a.checkRelations known .input [] a.inputs
  let _ ← a.checkRelations known .output names a.outputs
  let (_, w) ← w.insert a
  return w

/-- The workflow that was stored, if all entries keep the rules. -/
def StoredWorkflow.restore (s : StoredWorkflow) : Except CompileError Workflow :=
  s.activities.entries.foldlM (fun w e => w.restoreEntry e.1 e.2) (.start s.tag s.description)

/-- The reader of workflows. -/
def Workflow.decoder : Json.Decoder Workflow := fun t => do
  (← StoredWorkflow.recordType.decoder t).restore.mapError Json.ReadError.invalid

/-- The workflow that a JSON text holds. -/
def Workflow.ofJson (s : String) : Except Json.ReadError Workflow :=
  Json.readText Workflow.decoder s

end FlowGraph
