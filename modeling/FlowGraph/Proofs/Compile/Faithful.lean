import Mathlib.Data.List.Forall2
import FlowGraph.Proofs.Compile.Document

/-!
# `FlowGraph.Proofs.Compile.Faithful`: nothing is lost, repeated or misplaced

What an activity has to do with its declaration, said of the elements alone. The relations of
each direction are those that are declared with it, in document order (`relationElements`), and
the fields of a relation are those that give its name, in document order (`fieldElements`).
`Activity.Mirrors` says this of one activity, and `compile_faithful` of all activities of a
compiled workflow.

That no field is lost or repeated is a matter of counting: `perm_fields` says that the fields of
all relations together are the declared ones, up to their order.
-/

set_option autoImplicit false

namespace FlowGraph

/-- The children that declare relations of a direction. -/
def relationElements (es : List Element) (direction : Direction) : List Element :=
  es.filter (fun e => e.isRelation && e.direction? == some direction)

/-- The children that are fields of the relation of a name. Which of the two attributes gives
the name does not matter. -/
def fieldElements (es : List Element) (name : String) : List Element :=
  es.filter (fun e => !e.isRelation &&
    (e.attribute? "input" == some name || e.attribute? "output" == some name))

/-! ### Relations and their elements -/

/-- What reads without errors is not changed by leaving errors out. -/
theorem map_ok_filterMap_toOption {α β ε : Type} {g : α → Except ε β} {l : List α}
    (h : ∀ a ∈ l, ∃ b, g a = .ok b) :
    (l.filterMap (fun a => (g a).toOption)).map Except.ok = l.map g := by
  induction l with
  | nil => rfl
  | cons a l ih =>
      obtain ⟨b, hb⟩ := h a (by simp)
      rw [List.filterMap_cons, hb, List.map_cons, hb, ← ih (fun a' ha => h a' (by simp [ha]))]
      rfl

namespace ChildrenAcceptable

variable {es : List Element}

/-- Every relation is among those of a direction. -/
theorem exists_direction (h : ChildrenAcceptable es) {e : Element} (he : e ∈ es)
    (hrel : e.isRelation = true) : ∃ direction, e ∈ relationElements es direction := by
  obtain ⟨d, hd⟩ := h.exists_declaration he hrel
  have hdirection := (RelationDeclaration.ofElement_eq_ok_iff.1 hd).2.1
  exact ⟨d.direction, List.mem_filter.2 ⟨he, by simp [hrel, hdirection]⟩⟩

end ChildrenAcceptable

/-- The relations of a direction are declared by the elements of that direction, in order. -/
theorem forall₂_declaredRelations {es : List Element} (direction : Direction)
    (h : ∀ e ∈ es, e.isRelation = true → ∃ d, RelationDeclaration.ofElement e = .ok d) :
    List.Forall₂ (fun d e => RelationDeclaration.ofElement e = .ok d)
      ((declaredRelations es).filter (fun d => d.direction = direction))
      (relationElements es direction) := by
  induction es with
  | nil => exact .nil
  | cons e es ih =>
      have ih := ih (fun e' he => h e' (by simp [he]))
      rw [declaredRelations] at ih ⊢
      rw [relationElements] at ih ⊢
      cases hrel : e.isRelation with
      | false => simpa [hrel] using ih
      | true =>
          obtain ⟨d, hd⟩ := h e (by simp) hrel
          have hdirection := (RelationDeclaration.ofElement_eq_ok_iff.1 hd).2.1
          by_cases hsame : d.direction = direction
          · simpa [hrel, hd, Except.toOption, hdirection, hsame] using ih
          · simpa [hrel, hd, Except.toOption, hdirection, hsame] using ih

/-- Every relation is kept as its element declares it, with the fields that join it. -/
theorem forall₂_relationsOf {es : List Element} (h : ChildrenAcceptable es)
    (link : String → Option String) (direction : Direction) :
    List.Forall₂ (fun r e => ∃ d, RelationDeclaration.ofElement e = .ok d ∧
        r = Relation.ofDeclaration link es d)
      (relationsOf link es direction) (relationElements es direction) := by
  rw [relationsOf, List.forall₂_map_left_iff]
  exact (forall₂_declaredRelations direction (fun e he => h.exists_declaration he)).imp
    (fun d e hd => ⟨d, hd, rfl⟩)

/-- The fields of a relation are read off its elements, in order. -/
theorem map_ok_joinedFields {es : List Element} (h : ChildrenAcceptable es) (name : String) :
    (joinedFields name es).map Except.ok = (fieldElements es name).map Field.ofElement := by
  have hfilter : es.filter (fun e => !e.isRelation && e.joins?.map Prod.fst == some name)
      = fieldElements es name := by
    -- Exactly one of the attributes is given, so it is the same to ask either of them.
    apply List.filter_congr
    intro e he
    cases hrel : e.isRelation with
    | true => rfl
    | false =>
        obtain ⟨-, relation, direction, -, hjoins⟩ := h.exists_field he hrel
        rw [Element.joins?] at hjoins ⊢
        cases hinput : e.attribute? "input" <;> cases houtput : e.attribute? "output" <;>
          simp [hinput, houtput] at hjoins ⊢
  rw [joinedFields, hfilter]
  refine map_ok_filterMap_toOption (fun e he => ?_)
  rw [fieldElements, List.mem_filter, Bool.and_eq_true, Bool.not_eq_true'] at he
  obtain ⟨f, -, -, hf, -⟩ := h.exists_field he.1 he.2.1
  exact ⟨f, hf⟩

/-! ### Counting fields -/

/-- The fields that the children declare, in document order. -/
def declaredFields (es : List Element) : List Field :=
  (es.filter (fun e => !e.isRelation)).filterMap (fun e => (Field.ofElement e).toOption)

/-- One item more in the one list that a key selects is one item more of all lists. -/
theorem perm_flatMap_concat {α β κ : Type} [DecidableEq κ] {key : α → κ} {l : List α} {k : κ}
    (hn : (l.map key).Nodup) (hk : k ∈ l.map key) (g : α → List β) (b : β) :
    (l.flatMap (fun a => if k = key a then g a ++ [b] else g a)).Perm (l.flatMap g ++ [b]) := by
  induction l with
  | nil => simp at hk
  | cons a l ih =>
      rw [List.map_cons, List.nodup_cons] at hn
      rw [List.flatMap_cons, List.flatMap_cons]
      -- The key selects this list or a later one, and no two have it.
      by_cases hka : k = key a
      · have hrest : l.flatMap (fun a => if k = key a then g a ++ [b] else g a) = l.flatMap g := by
          refine List.flatMap_congr (fun a' ha' => if_neg (fun hka' => hn.1 ?_))
          rw [← hka, hka']
          exact List.mem_map_of_mem ha'
        rw [if_pos hka, hrest, List.append_assoc, List.append_assoc]
        exact List.perm_append_comm.append_left (g a)
      · have hk' : k ∈ l.map key := (List.mem_cons.1 hk).resolve_left hka
        rw [if_neg hka, List.append_assoc]
        exact (ih hn.2 hk').append_left (g a)

/-- Every declared field is a field of exactly one declared relation. -/
theorem perm_joinedFields {es : List Element} (h : ChildrenAcceptable es) :
    ((declaredRelations es).flatMap (fun d => joinedFields d.name es)).Perm
      (declaredFields es) := by
  induction es using List.reverseRecOn with
  | nil => exact .nil
  | append_singleton es e ih =>
      obtain ⟨hes, he⟩ := childrenAcceptable_concat.1 h
      cases hrel : e.isRelation with
      | true =>
          obtain ⟨d, hd, hnew⟩ := relationAcceptable_iff.1 (he.relation hrel)
          have hsame : declaredFields (es ++ [e]) = declaredFields es := by
            simp [declaredFields, hrel]
          rw [declaredRelations_concat_relation hrel hd, hsame]
          simpa [joinedFields_concat_relation hrel, hes.joinedFields_of_not_mem hnew] using ih hes
      | false =>
          obtain ⟨f, relation, direction, hf, hjoins, hknown⟩ :=
            fieldAcceptable_iff.1 (he.field hrel)
          have hmore : declaredFields (es ++ [e]) = declaredFields es ++ [f] := by
            simp [declaredFields, hrel, hf, Except.toOption]
          rw [declaredRelations_concat_field hrel, hmore]
          simp only [joinedFields_concat_field hrel hjoins hf]
          -- The field joins one of the relations so far, and only one.
          rw [← hes.map_name] at hknown
          exact (perm_flatMap_concat (hes.map_name ▸ hes.nodup_names) hknown _ f).trans
            ((ih hes).append_right [f])

/-- The fields of both directions together are the declared ones. -/
theorem perm_fields {es : List Element} (h : ChildrenAcceptable es)
    (link : String → Option String) :
    ((relationsOf link es .input ++ relationsOf link es .output).flatMap Relation.fields).Perm
      (declaredFields es) := by
  have hfields : ∀ direction, (relationsOf link es direction).flatMap Relation.fields
      = ((declaredRelations es).filter (fun d => d.direction = direction)).flatMap
          (fun d => joinedFields d.name es) := by
    intro direction
    rw [relationsOf, List.flatMap_map]
    rfl
  -- The two directions divide the declared relations between them.
  have houtput : (declaredRelations es).filter (fun d => d.direction = .output)
      = (declaredRelations es).filter (fun d => !decide (d.direction = .input)) := by
    refine List.filter_congr (fun d _ => ?_)
    cases d.direction <;> rfl
  rw [List.flatMap_append, hfields, hfields, ← List.flatMap_append, houtput]
  exact ((List.filter_append_perm _ _).flatMap_right _).trans (perm_joinedFields h)

/-! ### Activities and their declarations -/

/-- What a relation has to do with the element that declares it, among the children `es`. -/
structure Relation.Mirrors (r : Relation) (e : Element) (es : List Element) : Prop where
  name : e.attribute? "name" = some r.name
  direction : e.direction? = some r.direction
  fields : r.fields.map Except.ok = (fieldElements es r.name).map Field.ofElement

/-- What an activity has to do with its declaration. -/
structure Activity.Mirrors (a : Activity) (d : Element) : Prop where
  tag : d.attribute? "tag" = some a.tag
  relations : ∀ direction, List.Forall₂ (fun r e => r.Mirrors e d.children)
    (a.relations direction) (relationElements d.children direction)
  covered : ∀ e ∈ d.children, e.isRelation = true →
    ∃ direction, e ∈ relationElements d.children direction
  fields : (((a.inputs ++ a.outputs).flatMap Relation.fields).map Except.ok).Perm
    ((d.children.filter (fun e => !e.isRelation)).map Field.ofElement)
  fieldCount : a.fieldCount = (d.children.filter (fun e => !e.isRelation)).length

/-- The activity that an acceptable declaration comes to mirrors it. -/
theorem mirrors_completed {d : Element} {shell : Activity}
    (hshell : Activity.ofElement d = .ok shell) (h : ChildrenAcceptable d.children)
    (link : String → Option String) : (shell.completed link d).Mirrors d := by
  have hfields : (((shell.completed link d).inputs
      ++ (shell.completed link d).outputs).flatMap Relation.fields).Perm
        (declaredFields d.children) := by
    have hinputs : (shell.completed link d).inputs = relationsOf link d.children .input :=
      shell.relations_completed link d .input
    have houtputs : (shell.completed link d).outputs = relationsOf link d.children .output :=
      shell.relations_completed link d .output
    rw [hinputs, houtputs]
    exact perm_fields h link
  -- Every field element is read, so none is lost on the way from elements to fields.
  have hread : (declaredFields d.children).map Except.ok
      = (d.children.filter (fun e => !e.isRelation)).map Field.ofElement := by
    refine map_ok_filterMap_toOption (fun e he => ?_)
    rw [List.mem_filter, Bool.not_eq_true'] at he
    obtain ⟨f, -, -, hf, -⟩ := h.exists_field he.1 he.2
    exact ⟨f, hf⟩
  refine ⟨Activity.attribute?_tag_completed hshell link, ?_, ?_, ?_, ?_⟩
  · intro direction
    rw [Activity.relations_completed]
    refine (forall₂_relationsOf h link direction).imp ?_
    rintro r e ⟨decl, hdecl, rfl⟩
    obtain ⟨hname, hdirection, -⟩ := RelationDeclaration.ofElement_eq_ok_iff.1 hdecl
    exact ⟨hname, hdirection, map_ok_joinedFields h decl.name⟩
  · exact fun e he => h.exists_direction he
  · rw [← hread]
    exact hfields.map _
  · have hlength := congrArg List.length hread
    rw [List.length_map, List.length_map] at hlength
    rw [Activity.fieldCount, hfields.length_eq, hlength]

/-- Every activity of a workflow mirrors its declaration. -/
theorem CompiledFrom.forall₂_mirrors {ds : List Element} {w : Workflow} (h : CompiledFrom ds w)
    (hds : DeclarationsAcceptable ds) :
    List.Forall₂ Activity.Mirrors w.activities.values ds := by
  refine List.forall₂_iff_get.2 ⟨?_, fun i hi hi' => ?_⟩
  · rw [Table.length_values]
    exact h.size
  · obtain ⟨shell, hshell, hactivity⟩ := h.activity (List.getElem?_eq_getElem hi')
    obtain ⟨hlt, hvalue⟩ := List.getElem?_eq_some_iff.1 hactivity
    have hd := hds.of_getElem? (List.getElem?_eq_getElem hi')
    show Activity.Mirrors w.activities.values[i] ds[i]
    rw [hvalue]
    exact mirrors_completed hshell hd.children _

/-- A compiled workflow is faithful to its document: its activities are those that are declared,
in order, and each mirrors its declaration. -/
theorem compile_faithful {root : Element} {doc : CompiledDocument}
    (h : (compile root).1 = .ok doc) :
    ∃ e, root.firstChild? workflowElement = some e ∧
      List.Forall₂ Activity.Mirrors doc.workflow.activities.values e.children := by
  obtain ⟨e, hfirst, hdescribes⟩ := describes_of_compile h
  exact ⟨e, hfirst, hdescribes.compiled.forall₂_mirrors hdescribes.acceptable⟩

/-- Two activities with a relation of one name. The second gives it a field under the attribute
of the other direction. -/
def twinRelations : Element :=
  ⟨"Document", .empty, [⟨"Workflow", .ofList [("tag", "w")], [
    ⟨"Activity", .ofList [("tag", "a"), ("type", "map")], [
      ⟨"Relation", .ofList [("name", "r"), ("reltype", "output")], []⟩,
      ⟨"Field", .ofList [("name", "x"), ("type", "int"), ("output", "r")], []⟩]⟩,
    ⟨"Step", .ofList [("tag", "b"), ("type", "filter")], [
      ⟨"Relation", .ofList [("name", "r"), ("reltype", "input")], []⟩,
      ⟨"Field", .ofList [("name", "y"), ("type", "int"), ("output", "r")], []⟩]⟩]⟩]⟩

/-- Both activities mirror their declarations, each with a relation of its own. -/
theorem compile_faithful_twinRelations : ∃ doc, (compile twinRelations).1 = .ok doc ∧
    ∃ e, twinRelations.firstChild? workflowElement = some e ∧
      List.Forall₂ Activity.Mirrors doc.workflow.activities.values e.children := by
  have hok : (compile twinRelations).1.toOption.isSome = true := by decide +kernel
  obtain ⟨doc, hdoc⟩ := exists_ok_of_isSome_toOption hok
  exact ⟨doc, hdoc, compile_faithful hdoc⟩

end FlowGraph
