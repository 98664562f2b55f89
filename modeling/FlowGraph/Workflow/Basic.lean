import FlowGraph.CompileError
import FlowGraph.Table
import FlowGraph.Workflow.Kind

/-!
# `FlowGraph.Workflow.Basic`: workflows, activities, relations and fields

A workflow is a table of activities. An activity has relations in two directions, and each
relation carries fields and may name the activity that it reads from. Activities are keyed
by the tag they were inserted with; changing the tag of a stored activity does not move it.
The statements:

* `Workflow.activities_insert`: inserting appends, and refuses a key that is taken.
* `Workflow.activity?_update`, `Workflow.keys_update`: an update touches one position and no
  key.
* `Activity.relations_addRelation`: a relation joins the end of its own direction.
-/

set_option autoImplicit false

namespace FlowGraph

/-- A typed attribute of the data that a relation carries. -/
structure Field where
  name : String
  /-- The type as declared. -/
  type : String
  decimalPlaces : Option UInt32
  fileOperation : Option String
  instrumented : Option String
deriving DecidableEq

/-- A named channel of an activity. -/
structure Relation where
  name : String
  direction : Direction
  /-- The tag of the earlier activity that this relation reads from. -/
  dependency : Option String
  fields : List Field
deriving DecidableEq

namespace Relation

/-- A relation without dependency and fields. -/
def bare (name : String) (direction : Direction) : Relation := ⟨name, direction, none, []⟩

/-- The relation with one more field, after the others. -/
def addField (r : Relation) (f : Field) : Relation := { r with fields := r.fields ++ [f] }

/-- The first field of a name. -/
def field? (r : Relation) (name : String) : Option Field :=
  r.fields.find? (fun f => f.name == name)

end Relation

/-- One processing step. -/
structure Activity where
  tag : String
  kind : ActivityKind
  description : Option String
  /-- The directory whose files each run of the activity starts from. -/
  templateDir : Option String
  /-- The command that starts a run. -/
  activation : Option String
  extractor : Option String
  /-- The relative weight, as declared. -/
  workload : String
  inputs : List Relation
  outputs : List Relation
  operands : Table OperandKind (List String)
deriving DecidableEq

namespace Activity

/-- The workload of an activity that declares none. -/
def defaultWorkload : String := "0.0"

/-- An activity of which no more is known than its tag and kind. -/
def bare (tag : String) (kind : ActivityKind) : Activity :=
  ⟨tag, kind, none, none, none, none, defaultWorkload, [], [], .empty⟩

/-- The relations of one direction. -/
def relations (a : Activity) : Direction → List Relation
  | .input => a.inputs
  | .output => a.outputs

/-- The activity with the relations of one direction replaced by their image. -/
def mapRelations (a : Activity) (d : Direction) (f : List Relation → List Relation) : Activity :=
  match d with
  | .input => { a with inputs := f a.inputs }
  | .output => { a with outputs := f a.outputs }

/-- The activity with one more relation, at the end of the relation's own direction. -/
def addRelation (a : Activity) (r : Relation) : Activity :=
  a.mapRelations r.direction (· ++ [r])

/-- The activity with a field at the end of one of its relations. -/
def addField (a : Activity) (d : Direction) (index : Nat) (f : Field) : Activity :=
  a.mapRelations d (fun rs => rs.modify index (fun r => r.addField f))

/-- The activity with one more operand under a kind. -/
def addOperand (a : Activity) (k : OperandKind) (value : String) : Activity :=
  { a with operands := a.operands.update k [] (· ++ [value]) }

/-- The operands under a kind. -/
def operandsOf (a : Activity) (k : OperandKind) : List String := (a.operands.get? k).getD []

/-- Whether some output relation carries a field of the name. -/
def hasOutputField (a : Activity) (name : String) : Bool :=
  a.outputs.any (fun r => (r.field? name).isSome)

/-- Refuses an aggregation operand that is no output field. -/
def checkAggregationField (a : Activity) (name : String) : Except CompileError Unit :=
  if a.hasOutputField name then .ok () else .error (.missingAggregationField a.tag name)

/-- The number of fields in both directions. -/
def fieldCount (a : Activity) : Nat := ((a.inputs ++ a.outputs).flatMap (·.fields)).length

/-- A change of the relations of one direction leaves the other. -/
theorem relations_mapRelations (a : Activity) (d e : Direction)
    (f : List Relation → List Relation) :
    (a.mapRelations d f).relations e = if d = e then f (a.relations e) else a.relations e := by
  cases d <;> cases e <;> rfl

/-- A new relation stands last among those of its direction. -/
theorem relations_addRelation (a : Activity) (r : Relation) (d : Direction) :
    (a.addRelation r).relations d
      = if r.direction = d then a.relations d ++ [r] else a.relations d :=
  relations_mapRelations ..

end Activity

/-- The handle of an activity: its position in the workflow that issued it. -/
structure ActivityId where
  index : Nat
deriving DecidableEq

/-- A workflow: activities in the order of insertion, keyed by the tags that they had then. -/
structure Workflow where
  tag : String
  description : Option String
  activities : Table String Activity
deriving DecidableEq

namespace Workflow

/-- A workflow without activities. -/
def start (tag : String) (description : Option String) : Workflow := ⟨tag, description, .empty⟩

/-- The number of activities. -/
def size (w : Workflow) : Nat := w.activities.size

/-- The activity of a handle. -/
def activity? (w : Workflow) (id : ActivityId) : Option Activity := w.activities.at? id.index

/-- The activity under a key. -/
def get? (w : Workflow) (key : String) : Option Activity := w.activities.get? key

/-- The handle of the activity under a key. -/
def idOf? (w : Workflow) (key : String) : Option ActivityId :=
  (w.activities.indexOf? key).map ActivityId.mk

/-- The tag of an activity. No handle that the workflow has issued falls outside of it, so
the empty text is never seen. -/
def tagOf (w : Workflow) (id : ActivityId) : String :=
  match w.activity? id with
  | some a => a.tag
  | none => ""

/-- The workflow with an activity appended under its tag, and the handle of that activity. A
tag that is a key already is refused. -/
def insert (w : Workflow) (a : Activity) : Except CompileError (ActivityId × Workflow) :=
  if h : a.tag ∈ w.activities.keys then .error (.duplicateActivity a.tag)
  else .ok (⟨w.size⟩, { w with activities := w.activities.append a.tag a h })

/-- The workflow with one activity replaced by its image, under the same key. -/
def update (w : Workflow) (id : ActivityId) (f : Activity → Activity) : Workflow :=
  { w with activities := w.activities.modifyAt id.index f }

/-- The activity that a relation reads from. -/
def dependencyOf? (w : Workflow) (r : Relation) : Option Activity := r.dependency.bind w.get?

/-- Equality up to the order of the activities and, within each, of the operand kinds. -/
def sameUpToOrder (v w : Workflow) : Bool :=
  let sameActivity (a b : Activity) : Bool :=
    a.operands.sameEntries b.operands && decide ({ a with operands := b.operands } = b)
  v.tag == w.tag && v.description == w.description && v.size == w.size &&
    v.activities.entries.all (fun e => (w.get? e.1).any (sameActivity e.2))

/-- An activity that is inserted has the first free place, under its tag. -/
theorem activities_insert {w w' : Workflow} {a : Activity} {id : ActivityId}
    (h : w.insert a = .ok (id, w')) :
    id = ⟨w.size⟩ ∧ w'.activities.entries = w.activities.entries ++ [(a.tag, a)] := by
  unfold insert at h
  split at h
  · simp at h
  · simp only [Except.ok.injEq, Prod.mk.injEq] at h
    obtain ⟨rfl, rfl⟩ := h
    exact ⟨rfl, rfl⟩

@[simp] theorem keys_update (w : Workflow) (id : ActivityId) (f : Activity → Activity) :
    (w.update id f).activities.keys = w.activities.keys := Table.keys_modifyAt ..

@[simp] theorem size_update (w : Workflow) (id : ActivityId) (f : Activity → Activity) :
    (w.update id f).size = w.size := Table.size_modifyAt ..

/-- An update changes the activity at its place and no other. -/
theorem activity?_update (w : Workflow) (id other : ActivityId) (f : Activity → Activity) :
    (w.update id f).activity? other
      = if id.index = other.index then (w.activity? other).map f else w.activity? other :=
  Table.at?_modifyAt ..

end Workflow

end FlowGraph
