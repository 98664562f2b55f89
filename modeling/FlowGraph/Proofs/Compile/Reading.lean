import FlowGraph.Proofs.Steps
import FlowGraph.Workflow.Compile

/-!
# `FlowGraph.Proofs.Compile.Reading`: what the children of a declaration say

The walk over a declaration fills an activity through handles, one child after another. Here
stands what it should come to, said of the list of children as a whole:

* `declaredRelations`: the relations that the children declare, in document order.
* `joinedFields`: the fields that join the relation of a name, in document order.
* `relationsOf`: the relations of one direction, each with the fields that join it.

Each has an equation for one more child at the end, which is how the walk meets them. The
section on readers says when an element reads as a field, a relation or an activity.
-/

set_option autoImplicit false

namespace FlowGraph

namespace Element

/-- Whether a child of a declaration declares a relation. Every other child is a field. -/
def isRelation (e : Element) : Bool := e.name == relationElement

/-- The direction that a relation is declared with. -/
def direction? (e : Element) : Option Direction :=
  (e.attribute? "reltype").bind Direction.ofText?

/-- The name of the relation that a field joins, and the direction of the attribute that gives
it. There is none if both attributes are given, or neither. -/
def joins? (e : Element) : Option (String × Direction) :=
  match e.attribute? "input", e.attribute? "output" with
  | some name, none => some (name, .input)
  | none, some name => some (name, .output)
  | _, _ => none

/-- The decimal places of a field: no number if none are declared, and no answer if what is
declared is no number of 32 bits. -/
def decimalPlaces? (e : Element) : Option (Option UInt32) :=
  match e.attribute? "decimalplaces" with
  | none => some none
  | some text => (readUInt32? (Text.trimChars text.toList)).map some

/-- A relation is told from a field by the name of its element alone. -/
theorem isRelation_iff {e : Element} : e.isRelation = true ↔ e.name = relationElement := by
  simp [isRelation]

/-- A required attribute is read where it is given. -/
theorem requiredAttribute_eq_ok_iff {e : Element} {name value : String} :
    e.requiredAttribute name = .ok value ↔ e.attribute? name = some value := by
  rw [requiredAttribute]
  cases e.attribute? name <;> simp

/-- A required attribute that is not given is named with the element that misses it. -/
theorem requiredAttribute_of_none {e : Element} {name : String} (h : e.attribute? name = none) :
    e.requiredAttribute name = .error (.missingAttribute e.name name) := by
  rw [requiredAttribute, h]

end Element

/-! ### Readers -/

/-- An element reads as the declaration of a relation exactly when it has a name and a known
direction. -/
theorem RelationDeclaration.ofElement_eq_ok_iff {e : Element} {d : RelationDeclaration} :
    RelationDeclaration.ofElement e = .ok d ↔ e.attribute? "name" = some d.name ∧
      e.direction? = some d.direction ∧ d.dependency = e.attribute? "dependency" := by
  rw [RelationDeclaration.ofElement]
  simp only [except_bind_eq_ok_iff, Element.requiredAttribute_eq_ok_iff, Element.direction?,
    Option.bind_eq_some_iff]
  constructor
  · rintro ⟨name, hname, type, htype, h⟩
    cases hd : Direction.ofText? type with
    | none => rw [hd] at h; cases h
    | some direction =>
        rw [hd] at h
        cases h
        exact ⟨hname, ⟨type, htype, hd⟩, rfl⟩
  · rintro ⟨hname, ⟨type, htype, hd⟩, hdependency⟩
    refine ⟨d.name, hname, type, htype, ?_⟩
    rw [hd, ← hdependency]
    rfl

/-- An element reads as a field exactly when it has a name, a type and no decimal places but
a number of 32 bits. All other attributes are taken over as they stand. -/
theorem Field.ofElement_eq_ok_iff {e : Element} {f : Field} :
    Field.ofElement e = .ok f ↔ e.attribute? "name" = some f.name ∧
      e.attribute? "type" = some f.type ∧ e.decimalPlaces? = some f.decimalPlaces ∧
      f.fileOperation = e.attribute? "operation" ∧
      f.instrumented = e.attribute? "instrumented" := by
  rw [Field.ofElement]
  simp only [except_bind_eq_ok_iff, Element.requiredAttribute_eq_ok_iff, Element.decimalPlaces?]
  -- The decimal places are the one attribute that is not taken over as it stands.
  obtain ⟨name, type, places, operation, instrumented⟩ := f
  cases htext : e.attribute? "decimalplaces" with
  | none =>
      constructor
      · rintro ⟨name', hname, type', htype, h⟩
        cases h
        exact ⟨hname, htype, rfl, rfl, rfl⟩
      · rintro ⟨hname, htype, hplaces, rfl, rfl⟩
        cases hplaces
        exact ⟨name, hname, type, htype, rfl⟩
  | some text =>
      cases hn : readUInt32? (Text.trimChars text.toList) with
      | none =>
          constructor
          · rintro ⟨name', -, type', -, h⟩
            simp only [hn] at h
            cases h
          · rintro ⟨-, -, hplaces, -⟩
            simp [hn] at hplaces
      | some n =>
          constructor
          · rintro ⟨name', hname, type', htype, h⟩
            simp only [hn] at h
            cases h
            exact ⟨hname, htype, by simp [hn], rfl, rfl⟩
          · rintro ⟨hname, htype, hplaces, rfl, rfl⟩
            simp only [hn, Option.map_some, Option.some.injEq] at hplaces
            subst hplaces
            refine ⟨name, hname, type, htype, ?_⟩
            simp only [hn]
            rfl

/-- An element reads as an activity exactly when it has a tag and a type of a known kind. -/
theorem Activity.ofElement_eq_ok_iff {e : Element} {a : Activity} :
    Activity.ofElement e = .ok a ↔ e.attribute? "tag" = some a.tag ∧
      (e.attribute? "type").bind ActivityKind.ofText? = some a.kind ∧
      a = { Activity.bare a.tag a.kind with
        description := e.attribute? "description"
        templateDir := e.attribute? "template"
        activation := e.attribute? "activation"
        extractor := e.attribute? "extractor"
        workload := (e.attribute? "workload").getD Activity.defaultWorkload } := by
  rw [Activity.ofElement]
  simp only [except_bind_eq_ok_iff, Element.requiredAttribute_eq_ok_iff, Option.bind_eq_some_iff]
  constructor
  · rintro ⟨tag, htag, type, htype, h⟩
    cases hk : ActivityKind.ofText? type with
    | none => rw [hk] at h; cases h
    | some kind =>
        rw [hk] at h
        cases h
        exact ⟨htag, ⟨type, htype, hk⟩, rfl⟩
  · rintro ⟨htag, ⟨type, htype, hk⟩, ha⟩
    refine ⟨a.tag, htag, type, htype, ?_⟩
    rw [hk]
    exact congrArg Except.ok ha.symm

/-- The relation that a field joins is the one that its attributes name. -/
theorem Field.target_eq_ok_iff {activity : String} {f : Field} {e : Element}
    {p : String × Direction} : f.target activity e = .ok p ↔ e.joins? = some p := by
  rw [Field.target, Element.joins?]
  cases e.attribute? "input" <;> cases e.attribute? "output" <;> simp

/-! ### Lists of children -/

/-- The names of the relations that the children declare, in document order. -/
def relationNames (es : List Element) : List String :=
  (es.filter (·.isRelation)).filterMap (·.attribute? "name")

/-- The relations that the children declare, in document order. -/
def declaredRelations (es : List Element) : List RelationDeclaration :=
  (es.filter (·.isRelation)).filterMap (fun e => (RelationDeclaration.ofElement e).toOption)

/-- The fields that join the relation of a name, in document order. Which attribute names the
relation does not matter. -/
def joinedFields (name : String) (es : List Element) : List Field :=
  (es.filter (fun e => !e.isRelation && e.joins?.map Prod.fst == some name)).filterMap
    (fun e => (Field.ofElement e).toOption)

/-- A declared relation as it is kept: with the activity that its dependency is linked to, and
with the fields that join it. -/
def Relation.ofDeclaration (link : String → Option String) (es : List Element)
    (d : RelationDeclaration) : Relation :=
  ⟨d.name, d.direction, d.dependency.bind link, joinedFields d.name es⟩

/-- The relations of one direction that the children declare, in document order. -/
def relationsOf (link : String → Option String) (es : List Element) (d : Direction) :
    List Relation :=
  ((declaredRelations es).filter (fun r => r.direction = d)).map (Relation.ofDeclaration link es)

/-- An activity with the relations that its children declare. -/
def Activity.filled (shell : Activity) (link : String → Option String) (es : List Element) :
    Activity :=
  { shell with inputs := relationsOf link es .input, outputs := relationsOf link es .output }

@[simp] theorem Activity.filled_tag (shell : Activity) (link : String → Option String)
    (es : List Element) : (shell.filled link es).tag = shell.tag := rfl

@[simp] theorem Activity.filled_kind (shell : Activity) (link : String → Option String)
    (es : List Element) : (shell.filled link es).kind = shell.kind := rfl

/-- A shell that is filled has the relations that the children declare, in either direction. -/
theorem Activity.relations_filled (shell : Activity) (link : String → Option String)
    (es : List Element) (d : Direction) :
    (shell.filled link es).relations d = relationsOf link es d := by
  cases d <;> rfl

/-! ### One more child -/

section Concat

variable {es : List Element} {e : Element}

/-- One more relation adds its name. -/
theorem relationNames_concat_relation {name : String} (he : e.isRelation = true)
    (hname : e.attribute? "name" = some name) :
    relationNames (es ++ [e]) = relationNames es ++ [name] := by
  simp [relationNames, he, hname]

/-- One more field adds no name. -/
theorem relationNames_concat_field (he : e.isRelation = false) :
    relationNames (es ++ [e]) = relationNames es := by
  simp [relationNames, he]

/-- One more relation adds what it declares. -/
theorem declaredRelations_concat_relation {d : RelationDeclaration} (he : e.isRelation = true)
    (hd : RelationDeclaration.ofElement e = .ok d) :
    declaredRelations (es ++ [e]) = declaredRelations es ++ [d] := by
  simp [declaredRelations, he, hd, Except.toOption]

/-- One more field declares no relation. -/
theorem declaredRelations_concat_field (he : e.isRelation = false) :
    declaredRelations (es ++ [e]) = declaredRelations es := by
  simp [declaredRelations, he]

/-- One more relation joins nothing to those before it. -/
theorem joinedFields_concat_relation {name : String} (he : e.isRelation = true) :
    joinedFields name (es ++ [e]) = joinedFields name es := by
  simp [joinedFields, he]

/-- One more field joins the relation that it names and no other. -/
theorem joinedFields_concat_field {name target : String} {direction : Direction} {f : Field}
    (he : e.isRelation = false) (hjoins : e.joins? = some (target, direction))
    (hf : Field.ofElement e = .ok f) :
    joinedFields name (es ++ [e])
      = if target = name then joinedFields name es ++ [f] else joinedFields name es := by
  split
  · next h => simp [joinedFields, he, hjoins, h, hf, Except.toOption]
  · next h => simp [joinedFields, he, hjoins, h]

end Concat

end FlowGraph
