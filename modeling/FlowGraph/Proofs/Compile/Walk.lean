import FlowGraph.Proofs.Compile.Children
import FlowGraph.Proofs.Workflow.Extension

/-!
# `FlowGraph.Proofs.Compile.Walk`: the walk over the children of a declaration

The walk over the children of a declaration reads relations and fields as they come and puts
them into the workflow through handles. `Walk w shell es r c` is its invariant: behind the
children `es`, the compilation holds `w` with one activity more, and this is `shell` filled
with what `es` declare; the registry knows the relations by name, each at its place.

* `run_declare_of_not_mem`, `run_compileField_eq`: what one declaration and one field do.
* `Walk.step`: an acceptable child keeps the invariant.
* `Walk.run_compileChild_of_fault`: any other child ends the walk with its fault, and changes
  nothing.
-/

set_option autoImplicit false

namespace FlowGraph

/-! ### Linking -/

namespace Workflow

/-- The tag that a dependency on a key is kept as. -/
def linkedTag (w : Workflow) (key : String) : Option String := (w.get? key).map Activity.tag

/-- From the last activity, a dependency is kept as the tag of any other. -/
theorem Extends.linkDependency_eq {w w' : Workflow} {key : String} {a : Activity}
    (h : w.Extends w' key a) (t : String) :
    (w'.linkDependency ⟨w.size⟩ t).1.map w'.tagOf = w.linkedTag t := by
  rw [linkDependency, h.resolveDependency_eq, linkedTag]
  by_cases ht : t = key
  · -- The key of the last activity is found, but not before it.
    subst ht
    have hnone : w.get? t = none := Table.get?_eq_none_iff.2 h.not_mem_keys
    simp [hnone]
  · cases hid : w.idOf? t with
    | none => simp [ht, get?_of_idOf?_eq_none hid]
    | some id =>
        obtain ⟨b, hb⟩ := exists_of_idOf? hid
        have hat : w'.activity? id = some b := by
          rw [h.activity?_of_lt (lt_size_of_idOf? hid), activity?_of_idOf? hid, hb]
        simp [ht, tagOf, hat, hb]

end Workflow

/-! ### What one step does -/

/-- A new name is declared: the relation comes behind those of its direction, without fields,
and the registry keeps its place. -/
theorem Registry.run_declare_of_not_mem {r : Registry} {name : String} {c : Compilation}
    {a : Activity} (direction : Direction) (dependency : Option String)
    (hnew : name ∉ r.relations.keys) (ha : c.workflow.activity? r.activity = some a) :
    (r.declare name direction dependency).run c
      = (.ok (⟨direction, (a.relations direction).length⟩,
          { r with relations :=
              r.relations.append name ⟨direction, (a.relations direction).length⟩ hnew }),
        { workflow := c.workflow.update r.activity (·.addRelation
            ⟨name, direction, dependency.bind (fun t =>
              (c.workflow.linkDependency r.activity t).1.map c.workflow.tagOf), []⟩)
          log := c.log
            ++ (dependency.map (fun t => (c.workflow.linkDependency r.activity t).2)).toList
            ++ [.relationDeclared (c.workflow.tagOf r.activity) direction name] }) := by
  cases dependency <;>
    simp [Registry.declare, CompileM.run_bind, hnew, ha, Relation.bare, -bind_pure_comp]

/-- A field that joins a known relation comes behind its fields, whatever the direction. -/
theorem run_compileField_eq {r : Registry} {e : Element} {c : Compilation} {f : Field}
    {relation : String} {direction : Direction} {ref : RelationRef}
    (hf : Field.ofElement e = .ok f) (hjoins : e.joins? = some (relation, direction))
    (href : r.relations.get? relation = some ref) :
    (compileField r e).run c
      = (.ok (),
        { workflow := r.attach ref f c.workflow
          log := c.log ++ if ref.direction = direction then [] else
            [.directionMismatch (c.workflow.tagOf r.activity) f.name direction relation
              ref.direction] }) := by
  have htarget : f.target (c.workflow.tagOf r.activity) e = .ok (relation, direction) :=
    Field.target_eq_ok_iff.2 hjoins
  by_cases hdirection : ref.direction = direction <;>
    simp [compileField, CompileM.run_bind, hf, htarget, Registry.resolve, href, hdirection]

/-! ### The invariant -/

/-- The walk has come behind the children `es` of a declaration: the registry `r` is that of
the activity that has been added to `w`, as `shell`. -/
structure Walk (w : Workflow) (shell : Activity) (es : List Element) (r : Registry)
    (c : Compilation) : Prop where
  acceptable : ChildrenAcceptable es
  activity : r.activity = ⟨w.size⟩
  workflow : w.Extends c.workflow shell.tag (shell.filled w.linkedTag es)
  names : r.names = relationNames es
  place : ∀ name ref, r.relations.get? name = some ref → StandsAt w.linkedTag es ref name

namespace Walk

variable {w : Workflow} {shell : Activity} {es : List Element} {e : Element} {r : Registry}
  {c : Compilation}

/-- The walk starts at the shell, with no relations known. -/
theorem start (h : w.Extends c.workflow shell.tag (shell.filled w.linkedTag [])) :
    Walk w shell [] (.start ⟨w.size⟩) c where
  acceptable := allBehind_nil _
  activity := rfl
  workflow := h
  names := rfl
  place := by
    intro name ref href
    cases href

/-- On the walk the activity under construction is the shell, filled with the children so far. -/
theorem activity?_eq (h : Walk w shell es r c) :
    c.workflow.activity? r.activity = some (shell.filled w.linkedTag es) := by
  rw [h.activity, h.workflow.activity?_last]

/-- Messages name it by the tag of its shell. -/
theorem tagOf_eq (h : Walk w shell es r c) : c.workflow.tagOf r.activity = shell.tag := by
  rw [h.activity, h.workflow.tagOf_last, Activity.filled_tag]

/-- The registry knows the relations that are declared so far. -/
theorem mem_keys_iff (h : Walk w shell es r c) {name : String} :
    name ∈ r.relations.keys ↔ name ∈ relationNames es := by
  rw [← h.names, Registry.names]

/-- The registry knows the place of every relation that has been declared. -/
theorem exists_ref (h : Walk w shell es r c) {name : String} (hname : name ∈ relationNames es) :
    ∃ ref, r.relations.get? name = some ref := by
  cases href : r.relations.get? name with
  | none => exact absurd (h.mem_keys_iff.2 hname) (Table.get?_eq_none_iff.1 href)
  | some ref => exact ⟨ref, rfl⟩

/-! ### Acceptable children -/

/-- A relation that is acceptable is declared, and the walk goes on. -/
theorem step_relation (h : Walk w shell es r c) (hrel : e.isRelation = true)
    (he : RelationAcceptable es e) :
    ∃ r' c', (compileRelation r e).run c = (.ok r', c') ∧ Walk w shell (es ++ [e]) r' c' := by
  obtain ⟨d, hd, hnew⟩ := relationAcceptable_iff.1 he
  have hkeys : d.name ∉ r.relations.keys := fun hmem => hnew (h.mem_keys_iff.1 hmem)
  have hname := (RelationDeclaration.ofElement_eq_ok_iff.1 hd).1
  have hrun := Registry.run_declare_of_not_mem d.direction d.dependency hkeys h.activity?_eq
  -- What the table answers while it grows is what it answered before the activity came.
  have hlink : (fun t => (c.workflow.linkDependency r.activity t).1.map c.workflow.tagOf)
      = w.linkedTag := by
    funext t
    rw [h.activity, h.workflow.linkDependency_eq]
  -- No field before this relation can have joined it.
  have hrelation : (⟨d.name, d.direction, d.dependency.bind w.linkedTag, []⟩ : Relation)
      = Relation.ofDeclaration w.linkedTag es d := by
    rw [Relation.ofDeclaration, h.acceptable.joinedFields_of_not_mem hnew]
  rw [hlink, hrelation, Activity.relations_filled] at hrun
  have hstep := CompileM.run_bind_of_ok (f := fun p => pure p.2) hrun
  refine ⟨_, _, (CompileM.run_check_bind_of_ok hd).trans hstep, ?_⟩
  refine ⟨childrenAcceptable_concat.2 ⟨h.acceptable, ?_⟩, h.activity, ?_, ?_, ?_⟩
  · rwa [ChildAcceptable, if_pos hrel]
  · rw [filled_concat_relation hrel hd, h.activity]
    exact h.workflow.update _
  · rw [Registry.names, Table.keys_append, ← Registry.names, h.names,
      relationNames_concat_relation hrel hname]
  · -- The registry knows one name more, and its place is the one behind the others.
    intro name ref href
    rw [Table.get?_append] at href
    split at href
    · next heq =>
        cases href
        subst heq
        exact standsAt_concat_relation_self hrel hd
    · exact (h.place name ref href).concat_relation hrel hd

/-- A field that is acceptable is attached, and the walk goes on with the same registry. -/
theorem step_field (h : Walk w shell es r c) (hrel : e.isRelation = false)
    (he : FieldAcceptable es e) :
    ∃ c', (compileField r e).run c = (.ok (), c') ∧ Walk w shell (es ++ [e]) r c' := by
  obtain ⟨f, relation, direction, hf, hjoins, hknown⟩ := fieldAcceptable_iff.1 he
  -- The name is looked up in the registry, and the place it gives is where the relation stands.
  obtain ⟨ref, href⟩ := h.exists_ref hknown
  refine ⟨_, run_compileField_eq hf hjoins href, ?_⟩
  refine ⟨childrenAcceptable_concat.2 ⟨h.acceptable, ?_⟩, h.activity, ?_, ?_, ?_⟩
  · rwa [ChildAcceptable, if_neg (by simp [hrel])]
  · rw [filled_concat_field h.acceptable hrel hjoins hf (h.place relation ref href),
      Registry.attach, h.activity]
    exact h.workflow.update _
  · rw [h.names, relationNames_concat_field hrel]
  · intro name ref' href'
    exact (h.place name ref' href').concat_field hrel hjoins hf

/-- An acceptable child keeps the invariant. -/
theorem step (h : Walk w shell es r c) (he : ChildAcceptable es e) :
    ∃ r' c', (compileChild r e).run c = (.ok r', c') ∧ Walk w shell (es ++ [e]) r' c' := by
  cases hrel : e.isRelation with
  | true =>
      obtain ⟨r', c', hrun, hwalk⟩ := h.step_relation hrel (he.relation hrel)
      refine ⟨r', c', ?_, hwalk⟩
      rw [compileChild, if_pos (Element.isRelation_iff.1 hrel), hrun]
  | false =>
      obtain ⟨c', hrun, hwalk⟩ := h.step_field hrel (he.field hrel)
      refine ⟨r, c', ?_, hwalk⟩
      rw [compileChild, if_neg (fun hname => by simp [Element.isRelation_iff.2 hname] at hrel),
        CompileM.run_bind_of_ok hrun]
      rfl

/-! ### Other children -/

/-- A relation with a fault fails with it and changes nothing. -/
theorem run_compileRelation_of_fault (h : Walk w shell es r c) {err : CompileError}
    (hfault : RelationFault shell.tag es e err) :
    (compileRelation r e).run c = (.error err, c) := by
  cases hfault with
  | noName hnone =>
      have herr : RelationDeclaration.ofElement e = .error (.missingAttribute e.name "name") := by
        rw [RelationDeclaration.ofElement, Element.requiredAttribute_of_none hnone,
          except_error_bind]
      exact CompileM.run_check_bind_of_error herr
  | noDirection hname hnone =>
      have herr : RelationDeclaration.ofElement e
          = .error (.missingAttribute e.name "reltype") := by
        rw [RelationDeclaration.ofElement, Element.requiredAttribute_eq_ok_iff.2 hname,
          Element.requiredAttribute_of_none hnone, except_ok_bind, except_error_bind]
      exact CompileM.run_check_bind_of_error herr
  | @unknownDirection name type hname htype hnone =>
      have herr : RelationDeclaration.ofElement e = .error (.invalidRelationType name type) := by
        rw [RelationDeclaration.ofElement, Element.requiredAttribute_eq_ok_iff.2 hname,
          Element.requiredAttribute_eq_ok_iff.2 htype, except_ok_bind, except_ok_bind,
          Direction.ofText?_eq_none_iff.2 hnone]
        rfl
      exact CompileM.run_check_bind_of_error herr
  | @repeatedName name type direction hname htype hdirection hmem =>
      have hd : RelationDeclaration.ofElement e
          = .ok ⟨name, direction, e.attribute? "dependency"⟩ := by
        refine RelationDeclaration.ofElement_eq_ok_iff.2 ⟨hname, ?_, rfl⟩
        rw [Element.direction?, htype, Option.bind_some,
          Direction.ofText?_eq_some_iff.2 hdirection]
      -- The declaration reads well; it is the registry that refuses the name.
      have hrun := Registry.run_declare_of_mem direction (e.attribute? "dependency") c
        (h.mem_keys_iff.2 hmem)
      rw [h.tagOf_eq] at hrun
      exact (CompileM.run_check_bind_of_ok hd).trans (CompileM.run_bind_of_error hrun)

/-- A field with a fault fails with it and changes nothing. -/
theorem run_compileField_of_fault (h : Walk w shell es r c) {err : CompileError}
    (hfault : FieldFault shell.tag es e err) : (compileField r e).run c = (.error err, c) := by
  -- A field that reads goes on to its relation, where the tag of the activity is known.
  have hread : ∀ {name type : String} {places : Option UInt32},
      e.attribute? "name" = some name → e.attribute? "type" = some type →
      DeclaresPlaces (e.attribute? "decimalplaces") places →
        ∃ f, Field.ofElement e = .ok f ∧ f.name = name := by
    intro name type places hname htype hplaces
    exact ⟨⟨name, type, places, e.attribute? "operation", e.attribute? "instrumented"⟩,
      Field.ofElement_eq_ok_iff_declares.2 ⟨hname, htype, hplaces, rfl, rfl⟩, rfl⟩
  cases hfault with
  | noName hnone =>
      exact CompileM.run_check_bind_of_error (Field.ofElement_of_readsAsField (.noName hnone))
  | noType hname hnone =>
      exact CompileM.run_check_bind_of_error
        (Field.ofElement_of_readsAsField (.noType hname hnone))
  | invalidPlaces hname htype htext hnone =>
      exact CompileM.run_check_bind_of_error
        (Field.ofElement_of_readsAsField (.noNumber hname htype htext hnone))
  | ambiguous hname htype hplaces hinput houtput =>
      obtain ⟨f, hf, rfl⟩ := hread hname htype hplaces
      simp [compileField, CompileM.run_bind, hf, Field.target, hinput, houtput, h.tagOf_eq]
  | unbound hname htype hplaces hinput houtput =>
      obtain ⟨f, hf, rfl⟩ := hread hname htype hplaces
      simp [compileField, CompileM.run_bind, hf, Field.target, hinput, houtput, h.tagOf_eq]
  | unknownRelation hname htype hplaces hjoins hnew =>
      obtain ⟨f, hf, rfl⟩ := hread hname htype hplaces
      have hunknown := Table.get?_eq_none_iff.2 (fun hmem => hnew (h.mem_keys_iff.1 hmem))
      simp [compileField, CompileM.run_bind, hf, Field.target_eq_ok_iff.2 hjoins,
        Registry.resolve, hunknown, h.tagOf_eq, h.names]

/-- Any other child ends the walk with its fault, and nothing is changed. -/
theorem run_compileChild_of_fault (h : Walk w shell es r c) {err : CompileError}
    (hfault : ChildFault shell.tag es e err) : (compileChild r e).run c = (.error err, c) := by
  rw [ChildFault] at hfault
  rw [compileChild]
  split at hfault
  · next hrel =>
      rw [if_pos (Element.isRelation_iff.1 hrel)]
      exact h.run_compileRelation_of_fault hfault
  · next hrel =>
      rw [if_neg (fun hname => hrel (Element.isRelation_iff.2 hname))]
      exact CompileM.run_bind_of_error (h.run_compileField_of_fault hfault)

end Walk

end FlowGraph
