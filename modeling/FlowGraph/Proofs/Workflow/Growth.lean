import FlowGraph.Proofs.Compile.Unfinished

/-!
# `FlowGraph.Proofs.Workflow.Growth`: relations that keep their places

A `RelationRef` is a bare position in a list of relations, inside an activity that is itself a bare
position in a table. It stays good because nothing that happens to a workflow takes a relation from
its place: relations and activities come behind those that are there, and fields behind the fields
of their relation. `Workflow.Grows w w'` says this of `w` and what has become of it:

* `Workflow.Grows.relation`: a relation of `w` stands in `w'` where it stood, with more fields at
  most.
* `Workflow.Extends.grows`, `Workflow.grows_update`: one entry more, and one activity that grows.
* `leaves_declare`, `leaves_compileActivity`: what declaring a relation and compiling a declaration
  leave has grown, whether they succeed or fail.

`Workflow.FieldJoins` says what one field more comes to, told by the whole table.
-/

set_option autoImplicit false

namespace FlowGraph

/-- `r'` is `r`, possibly with more fields behind its own. -/
def Relation.Grows (r r' : Relation) : Prop :=
  ∃ fields, r' = { r with fields := r.fields ++ fields }

namespace Relation.Grows

variable {r r' r'' : Relation}

/-- Nothing is lost where nothing happens. -/
theorem refl (r : Relation) : r.Grows r := ⟨[], by simp⟩

/-- Growing twice is growing. -/
theorem trans (h : r.Grows r') (h' : r'.Grows r'') : r.Grows r'' := by
  obtain ⟨fields, rfl⟩ := h
  obtain ⟨fields', rfl⟩ := h'
  exact ⟨fields ++ fields', by simp⟩

/-- One more field at the end. -/
theorem addField (r : Relation) (f : Field) : r.Grows (r.addField f) := ⟨[f], rfl⟩

end Relation.Grows

/-! ### Activities -/

/-- A change at a place that is taken puts the changed item there. -/
theorem modify_eq_set {α : Type} {l : List α} {i : Nat} {a : α} {f : α → α}
    (h : l[i]? = some a) : l.modify i f = l.set i (f a) := by
  rw [List.modify_eq_set_getElem?, h]
  rfl

namespace Activity

/-- Only the relations of the direction that is changed matter to how it is changed. -/
theorem mapRelations_congr {a : Activity} {d : Direction} {f g : List Relation → List Relation}
    (h : f (a.relations d) = g (a.relations d)) : a.mapRelations d f = a.mapRelations d g := by
  cases d
  · exact congrArg (fun rs => { a with inputs := rs }) h
  · exact congrArg (fun rs => { a with outputs := rs }) h

/-- The relation at a place. -/
def relation? (a : Activity) (ref : RelationRef) : Option Relation :=
  (a.relations ref.direction)[ref.index]?

/-- Every relation of `a` stands in `a'` where it stood, possibly with more fields. -/
def Grows (a a' : Activity) : Prop :=
  ∀ ref r, a.relation? ref = some r → ∃ r', a'.relation? ref = some r' ∧ r.Grows r'

variable {a a' a'' : Activity}

/-- Nothing is lost where nothing happens. -/
theorem Grows.refl (a : Activity) : a.Grows a := fun _ r h => ⟨r, h, .refl r⟩

/-- Growing twice is growing: each relation grows twice in its place. -/
theorem Grows.trans (h : a.Grows a') (h' : a'.Grows a'') : a.Grows a'' := by
  intro ref r hr
  obtain ⟨r', hr', hgrows⟩ := h ref r hr
  obtain ⟨r'', hr'', hgrows'⟩ := h' ref r' hr'
  exact ⟨r'', hr'', hgrows.trans hgrows'⟩

/-- A relation more stands behind the others of its direction. -/
theorem grows_addRelation (a : Activity) (r : Relation) : a.Grows (a.addRelation r) := by
  intro ref r' hr'
  obtain ⟨hlt, -⟩ := List.getElem?_eq_some_iff.1 hr'
  refine ⟨r', ?_, .refl r'⟩
  rw [relation?, relations_addRelation]
  split
  · rw [List.getElem?_append_left hlt]
    exact hr'
  · exact hr'

/-- The place behind all relations of a direction is that of the next one. -/
theorem relation?_addRelation_last (a : Activity) (r : Relation) :
    (a.addRelation r).relation? ⟨r.direction, (a.relations r.direction).length⟩ = some r := by
  rw [relation?, relations_addRelation, if_pos rfl]
  simp

/-- A field more changes the relation that it joins, and no other. -/
theorem relation?_addField (a : Activity) (ref other : RelationRef) (f : Field) :
    (a.addField ref.direction ref.index f).relation? other
      = if ref = other then (a.relation? other).map (·.addField f) else a.relation? other := by
  obtain ⟨d, i⟩ := ref
  obtain ⟨e, j⟩ := other
  simp only [relation?, addField, relations_mapRelations, RelationRef.mk.injEq]
  by_cases hd : d = e
  · simp only [hd, if_true, true_and, List.getElem?_modify]
    split <;> simp
  · simp [hd]

/-- A field that is added lets its relation grow, and no other changes. -/
theorem grows_addField (a : Activity) (ref : RelationRef) (f : Field) :
    a.Grows (a.addField ref.direction ref.index f) := by
  intro other r hr
  rw [relation?_addField, hr]
  split
  · exact ⟨r.addField f, rfl, .addField r f⟩
  · exact ⟨r, rfl, .refl r⟩

end Activity

/-! ### Workflows -/

namespace Workflow

/-- Every activity of `w` stands in `w'` where it stood, and has grown. -/
def Grows (w w' : Workflow) : Prop :=
  ∀ id a, w.activity? id = some a → ∃ a', w'.activity? id = some a' ∧ a.Grows a'

/-- The relation at a place of an activity. -/
def relation? (w : Workflow) (id : ActivityId) (ref : RelationRef) : Option Relation :=
  (w.activity? id).bind (fun a => a.relation? ref)

/-- The relations of an activity are looked up in the workflow at its place. -/
theorem relation?_of_activity? {w : Workflow} {id : ActivityId} {a : Activity}
    (h : w.activity? id = some a) (ref : RelationRef) :
    w.relation? id ref = a.relation? ref := by
  rw [relation?, h, Option.bind_some]

/-- A relation that is added stands behind the others of its direction. -/
theorem relation?_addRelation {w : Workflow} {id : ActivityId} {a : Activity}
    (h : w.activity? id = some a) (r : Relation) :
    (w.update id (·.addRelation r)).relation? id ⟨r.direction, (a.relations r.direction).length⟩
      = some r := by
  rw [relation?, activity?_update, if_pos rfl, h]
  exact a.relation?_addRelation_last r

variable {w w' w'' : Workflow}

/-- A workflow that is left as it is loses nothing. -/
theorem Grows.refl (w : Workflow) : w.Grows w := fun _ a h => ⟨a, h, .refl a⟩

/-- Growing twice is growing: each activity grows twice in its place. -/
theorem Grows.trans (h : w.Grows w') (h' : w'.Grows w'') : w.Grows w'' := by
  intro id a ha
  obtain ⟨a', ha', hgrows⟩ := h id a ha
  obtain ⟨a'', ha'', hgrows'⟩ := h' id a' ha'
  exact ⟨a'', ha'', hgrows.trans hgrows'⟩

/-- What stands at a place stays there. -/
theorem Grows.relation (h : w.Grows w') {id : ActivityId} {ref : RelationRef} {r : Relation}
    (hr : w.relation? id ref = some r) : ∃ r', w'.relation? id ref = some r' ∧ r.Grows r' := by
  obtain ⟨a, ha, har⟩ := Option.bind_eq_some_iff.1 hr
  obtain ⟨a', ha', hgrows⟩ := h id a ha
  rw [relation?_of_activity? ha']
  exact hgrows ref r har

/-- A new activity takes nothing from those that are there. -/
theorem Extends.grows {key : String} {a : Activity} (h : w.Extends w' key a) : w.Grows w' := by
  intro id b hb
  refine ⟨b, ?_, .refl b⟩
  rw [h.activity?_of_lt (lt_size_of_activity? hb), hb]

/-- A workflow grows with each of its activities. -/
theorem grows_update (w : Workflow) (id : ActivityId) {f : Activity → Activity}
    (hf : ∀ a : Activity, a.Grows (f a)) : w.Grows (w.update id f) := by
  intro other a ha
  rw [activity?_update, ha]
  split
  · exact ⟨f a, rfl, hf a⟩
  · exact ⟨a, rfl, .refl a⟩

/-- `w'` is `w` with one field more, behind those of the relation at the place `ref` of the activity
at `id`. All other entries are the same, and so is everything else about this one. -/
structure FieldJoins (w w' : Workflow) (id : ActivityId) (ref : RelationRef) (f : Field) :
    Prop where
  tag : w'.tag = w.tag
  description : w'.description = w.description
  entries : ∃ key a r, w.activities.entries[id.index]? = some (key, a) ∧
    (a.relations ref.direction)[ref.index]? = some r ∧
    w'.activities.entries = w.activities.entries.set id.index
      (key, a.mapRelations ref.direction (·.set ref.index (r.addField f)))

/-- A field joins exactly the relation at the place that it is given, if there is one. -/
theorem fieldJoins_attach {registry : Registry} {ref : RelationRef} {r : Relation}
    (h : w.relation? registry.activity ref = some r) (f : Field) :
    w.FieldJoins (registry.attach ref f w) registry.activity ref f := by
  obtain ⟨a, ha, hr⟩ := Option.bind_eq_some_iff.1 h
  rw [activity?, Table.at?, Table.values, List.getElem?_map] at ha
  obtain ⟨⟨key, b⟩, hentry, rfl⟩ := Option.map_eq_some_iff.1 ha
  refine ⟨rfl, rfl, key, b, r, hentry, hr, ?_⟩
  have hactivity : b.addField ref.direction ref.index f
      = b.mapRelations ref.direction (·.set ref.index (r.addField f)) :=
    Activity.mapRelations_congr (modify_eq_set hr)
  rw [← hactivity]
  exact modify_eq_set hentry

end Workflow

/-! ### Steps of compiling -/

/-- The workflow of a compilation has grown. -/
def Compilation.Grows (c c' : Compilation) : Prop := c.workflow.Grows c'.workflow

instance : IsPreorder Compilation Compilation.Grows where
  refl c := .refl c.workflow
  trans _ _ _ := Workflow.Grows.trans

/-- To declare a relation lets the workflow grow, also where it fails. -/
theorem leaves_declare (r : Registry) (name : String) (direction : Direction)
    (dependency : Option String) :
    CompileM.Leaves Compilation.Grows (r.declare name direction dependency) := by
  have hemit : ∀ record, CompileM.Leaves Compilation.Grows (CompileM.emit record) :=
    fun _ c => .refl c.workflow
  refine .bind .workflow (fun w => ?_)
  split
  · exact .throw _
  · have hrest : ∀ (relation : Relation) (record : Event) (p : RelationRef × Registry),
        CompileM.Leaves Compilation.Grows (do
          CompileM.modifyWorkflow (fun w => w.update r.activity (·.addRelation relation))
          CompileM.emit record
          return p) := by
      intro relation record p
      exact .bind (fun c => c.workflow.grows_update _ (fun a => a.grows_addRelation relation))
        (fun _ => .bind (hemit record) (fun _ => .pure p))
    -- Only a dependency that is given leaves a record of its own.
    cases dependency with
    | none => exact .bind (.pure none) (fun linked => hrest _ _ _)
    | some tag => exact .bind (hemit _) (fun _ => .bind (.pure _) (fun linked => hrest _ _ _))

/-- To compile an activity lets the workflow grow, also where it fails. -/
theorem leaves_compileActivity (d : Element) :
    CompileM.Leaves Compilation.Grows (compileActivity d) := by
  intro c
  rcases compileActivity_unchanged_or_extends d c with ⟨err, hrun⟩ | ⟨a, hext⟩
  · rw [hrun]
    exact refl_of Compilation.Grows c
  · exact hext.grows

end FlowGraph
