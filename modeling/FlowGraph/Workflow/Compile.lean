import FlowGraph.Connection
import FlowGraph.Text.Pieces
import FlowGraph.Workflow.Registry

/-!
# `FlowGraph.Workflow.Compile`: from a description to a workflow

A description names its workflow in a `<Workflow>` element; every child of that element
declares an activity, whatever it is called, and within a declaration a `<Relation>` element
declares a relation and any other element a field. The walk goes once through the document,
and the first violation ends it:

1. an activity is inserted as soon as its own attributes are known, so that it may be named
   in messages but not depended on;
2. its relations and fields follow in document order, so that a field can join only a
   relation declared before it;
3. its operands come last, because an aggregation operand has to be an output field.
-/

set_option autoImplicit false

namespace FlowGraph

/-- The element that holds the declarations of activities. -/
def workflowElement : String := "Workflow"

/-- The element that declares a relation. -/
def relationElement : String := "Relation"

/-! ### Reading declarations -/

/-- The field that an element declares. Decimal places, if given, must be a number of 32
bits, white space around it apart. -/
def Field.ofElement (e : Element) : Except CompileError Field := do
  let name ← e.requiredAttribute "name"
  let type ← e.requiredAttribute "type"
  let decimalPlaces ←
    match e.attribute? "decimalplaces" with
    | none => pure none
    | some text =>
        match readUInt32? (Text.trimChars text.toList) with
        | some places => pure (some places)
        | none => throw (.invalidDecimalPlaces name text)
  return ⟨name, type, decimalPlaces, e.attribute? "operation", e.attribute? "instrumented"⟩

/-- The activity that a declaration describes, without relations and operands. -/
def Activity.ofElement (e : Element) : Except CompileError Activity := do
  let tag ← e.requiredAttribute "tag"
  let type ← e.requiredAttribute "type"
  match ActivityKind.ofText? type with
  | none => throw (.invalidActivityType tag type)
  | some kind =>
      return { Activity.bare tag kind with
        description := e.attribute? "description"
        templateDir := e.attribute? "template"
        activation := e.attribute? "activation"
        extractor := e.attribute? "extractor"
        workload := (e.attribute? "workload").getD Activity.defaultWorkload }

/-- What the declaration of a relation says: its name, direction and dependency. -/
structure RelationDeclaration where
  name : String
  direction : Direction
  dependency : Option String

/-- What an element says that declares a relation. -/
def RelationDeclaration.ofElement (e : Element) : Except CompileError RelationDeclaration := do
  let name ← e.requiredAttribute "name"
  let type ← e.requiredAttribute "reltype"
  match Direction.ofText? type with
  | none => throw (.invalidRelationType name type)
  | some direction => return ⟨name, direction, e.attribute? "dependency"⟩

/-- The relation that a field names and the direction under which it names it. A field names
exactly one. -/
def Field.target (activity : String) (f : Field) (e : Element) :
    Except CompileError (String × Direction) :=
  match e.attribute? "input", e.attribute? "output" with
  | some input, none => .ok (input, .input)
  | none, some output => .ok (output, .output)
  | some input, some output =>
      .error (.ambiguousFieldRelation activity f.name input output)
  | none, none => .error (.unboundField activity f.name)

/-- The operands that a text lists: the stretches between its commas, trimmed, without the
empty ones. -/
def operandTokens (s : String) : List String :=
  ((Text.pieces ',' s.toList).map (fun p => String.ofList (Text.trimChars p))).filter
    (fun t => !t.isEmpty)

/-! ### The walk -/

/-- Declares a relation. -/
def compileRelation (r : Registry) (e : Element) : CompileM Registry := do
  let d ← CompileM.check (RelationDeclaration.ofElement e)
  let (_, r) ← r.declare d.name d.direction d.dependency
  return r

/-- Attaches a field to the relation that it names. The attribute that names it should be
that of the relation's direction; the relation decides where it is not. -/
def compileField (r : Registry) (e : Element) : CompileM Unit := do
  let field ← CompileM.check (Field.ofElement e)
  let w ← CompileM.workflow
  let activity := w.tagOf r.activity
  let (name, direction) ← CompileM.check (field.target activity e)
  let ref ← CompileM.check (r.resolve w field.name name)
  if ref.direction ≠ direction then
    CompileM.emit (.directionMismatch activity field.name direction name ref.direction)
  CompileM.modifyWorkflow (r.attach ref field)

/-- One child of the declaration of an activity. -/
def compileChild (r : Registry) (e : Element) : CompileM Registry := do
  if e.name = relationElement then compileRelation r e
  else
    compileField r e
    return r

/-- Records one operand, then checks it if it is to be aggregated on. -/
def compileOperand (id : ActivityId) (kind : OperandKind) (token : String) : CompileM Unit := do
  CompileM.modifyWorkflow (fun w => w.update id (·.addOperand kind token))
  if kind = .aggregationField then
    match (← CompileM.workflow).activity? id with
    | some a => CompileM.check (a.checkAggregationField token)
    | none => pure ()

/-- Records the operands of an activity, if its kind takes any. -/
def compileOperands (id : ActivityId) (operand : String) : CompileM Unit := do
  match (← CompileM.workflow).activity? id with
  | none => pure ()
  | some a =>
      match a.kind.operandKind? with
      | some kind => (operandTokens operand).forM (compileOperand id kind)
      | none => CompileM.emit (.operandsIgnored a.tag a.kind operand)

/-- Compiles the declaration of an activity into the workflow. -/
def compileActivity (e : Element) : CompileM ActivityId := do
  let shell ← CompileM.check (Activity.ofElement e)
  let (id, w) ← CompileM.check ((← CompileM.workflow).insert shell)
  CompileM.modifyWorkflow (fun _ => w)
  let _ ← e.children.foldlM compileChild (Registry.start id)
  match e.attribute? "operand" with
  | some operand => compileOperands id operand
  | none => pure ()
  match (← CompileM.workflow).activity? id with
  | some a =>
      CompileM.emit
        (.activityCompiled a.tag a.kind a.inputs.length a.outputs.length a.fieldCount)
  | none => pure ()
  return id

/-- Compiles the declarations of activities one after another. -/
def compileActivities (es : List Element) : CompileM Unit :=
  es.forM (fun e => do let _ ← compileActivity e)

/-! ### Documents -/

/-- A compiled description: its workflow and the connection of its database, if it has a
section for it. -/
structure CompiledDocument where
  workflow : Workflow
  database : Option Connection
deriving DecidableEq

/-- The compilation that a `<Workflow>` element starts with, inside a document with the given
connection. -/
def Compilation.start (tag : String) (e : Element) (database : Option Connection) :
    Compilation where
  workflow := .start tag (e.attribute? "description")
  log := (if database.isNone then [.noDatabase] else []) ++ [.compiling tag e.children.length]

/-- Compiles a document, given its root element. The log tells what was done until the end or
the first violation. -/
def compile (root : Element) : Except CompileError CompiledDocument × Log :=
  match root.requiredChild workflowElement with
  | .error e => (.error e, [])
  | .ok element =>
      match element.requiredAttribute "tag" with
      | .error e => (.error e, [])
      | .ok tag =>
          let database := (root.firstChild? Connection.elementName).map Connection.ofElement
          match (compileActivities element.children).run (.start tag element database) with
          | (.error e, c) => (.error e, c.log)
          | (.ok (), c) =>
              (.ok ⟨c.workflow, database⟩,
                c.log ++ [.compiled c.workflow.tag c.workflow.size])

end FlowGraph
