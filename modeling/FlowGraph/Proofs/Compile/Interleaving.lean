import FlowGraph.Proofs.Compile.Faithful

/-!
# `FlowGraph.Proofs.Compile.Interleaving`: relations and fields among each other

In a declaration, relations and fields may come in many orders that mean the same. What matters is
the order of the inputs, that of the outputs, and for each relation that of its fields, but not how
these lists are merged into one (`Element.Interleaves`).

* `Element.Interleaves.relationsOf_eq`: the relations of a declaration, with their fields, are made
  from these lists alone.
* `ChildrenAcceptable.relationsFirst`: a field may always wait until all relations are declared.
* `compileActivity_interleaved`: so two such declarations that compile into one workflow leave the
  same, and with all relations in front a declaration compiles as before.

Not every order of the same lists compiles: a field does not find a relation that has been moved
behind it.
-/

set_option autoImplicit false

namespace FlowGraph

/-- Two declarations have the same attributes and the same children, and their inputs come in the
same order, their outputs do, and so do the fields of every relation. -/
structure Element.Interleaves (d d' : Element) : Prop where
  attributes : ∀ name, d.attribute? name = d'.attribute? name
  children : d.children.Perm d'.children
  relations : ∀ direction,
    relationElements d.children direction = relationElements d'.children direction
  fields : ∀ name ∈ relationNames d.children,
    fieldElements d.children name = fieldElements d'.children name

/-- The declaration with its relations in front of its fields. -/
def Element.relationsFirst (d : Element) : Element :=
  { d with children :=
      d.children.filter (·.isRelation) ++ d.children.filter (fun e => !e.isRelation) }

/-! ### The same lists -/

section Lists

variable {es es' : List Element}

/-- Fields are read off their elements, so the same elements give the same fields. -/
theorem joinedFields_of_fieldElements (hes : ChildrenAcceptable es)
    (hes' : ChildrenAcceptable es') {name : String}
    (h : fieldElements es name = fieldElements es' name) :
    joinedFields name es = joinedFields name es' := by
  have hok : Function.Injective (Except.ok : Field → Except CompileError Field) :=
    fun _ _ heq => Except.ok.inj heq
  apply List.map_injective_iff.2 hok
  rw [map_ok_joinedFields hes, map_ok_joinedFields hes', h]

/-- So do relations. -/
theorem declaredRelations_of_relationElements (hes : ChildrenAcceptable es)
    (hes' : ChildrenAcceptable es') {direction : Direction}
    (h : relationElements es direction = relationElements es' direction) :
    (declaredRelations es).filter (fun d => d.direction = direction)
      = (declaredRelations es').filter (fun d => d.direction = direction) := by
  have hleft := forall₂_declaredRelations direction (fun e he => hes.exists_declaration he)
  have hright := forall₂_declaredRelations direction (fun e he => hes'.exists_declaration he)
  rw [h] at hleft
  exact List.left_unique_forall₂' (fun _ _ _ hd hd' => Except.ok.inj (hd.symm.trans hd'))
    hleft hright

end Lists

namespace Element.Interleaves

variable {d d' : Element} {shell : Activity}

/-- Relations and their fields do not depend on how the two are mingled, as long as a field
follows its relation. -/
theorem relationsOf_eq (h : d.Interleaves d') (hd : ChildrenAcceptable d.children)
    (hd' : ChildrenAcceptable d'.children) (link : String → Option String) (direction : Direction) :
    relationsOf link d.children direction = relationsOf link d'.children direction := by
  rw [relationsOf, relationsOf,
    ← declaredRelations_of_relationElements hd hd' (h.relations direction)]
  refine List.map_congr_left (fun r hr => ?_)
  -- The relation is declared in both, so its name is one of those whose fields are compared.
  have hname : r.name ∈ relationNames d.children := by
    rw [← hd.map_name]
    exact List.mem_map_of_mem (List.mem_filter.1 hr).1
  rw [Relation.ofDeclaration, Relation.ofDeclaration,
    joinedFields_of_fieldElements hd hd' (h.fields r.name hname)]

/-- What is read off a declaration alone is the same. -/
theorem ofElement_eq_ok (h : d.Interleaves d') (hshell : Activity.ofElement d = .ok shell) :
    Activity.ofElement d' = .ok shell := by
  rw [Activity.ofElement_eq_ok_iff] at hshell ⊢
  simpa only [h.attributes] using hshell

/-- So nothing of the completed activity does. -/
theorem completed_eq (h : d.Interleaves d') (hd : ChildrenAcceptable d.children)
    (hd' : ChildrenAcceptable d'.children) (link : String → Option String) (shell : Activity) :
    shell.completed link d = shell.completed link d' := by
  rw [Activity.completed, Activity.completed, Activity.filled, Activity.filled,
    h.relationsOf_eq hd hd' link, h.relationsOf_eq hd hd' link, h.attributes]

end Element.Interleaves

/-! ### Relations in front -/

/-- Putting the items of a class in front of the others does not change the order of those items
that are all in the class, or all outside of it. -/
theorem filter_filter_append {α : Type} {p q : α → Bool} (b : Bool)
    (h : ∀ a, p a = true → q a = b) (l : List α) :
    (l.filter q ++ l.filter (fun a => !q a)).filter p = l.filter p := by
  have hin : ∀ a, (p a && q a) = (p a && b) := by
    intro a
    cases hp : p a with
    | false => rfl
    | true => rw [h a hp]
  have hout : ∀ a, (p a && !q a) = (p a && !b) := by
    intro a
    cases hp : p a with
    | false => rfl
    | true => rw [h a hp]
  simp only [List.filter_append, List.filter_filter, hin, hout]
  cases b <;> simp

/-- A relation stays acceptable where fewer names are taken. -/
theorem RelationAcceptable.of_subset {before before' : List Element} {e : Element}
    (h : RelationAcceptable before e) (hsub : relationNames before' ⊆ relationNames before) :
    RelationAcceptable before' e := by
  obtain ⟨name, hname, hnew⟩ := h.name
  exact ⟨⟨name, hname, fun hmem => hnew (hsub hmem)⟩, h.direction⟩

/-- A field stays acceptable where more relations are known. -/
theorem FieldAcceptable.of_subset {before before' : List Element} {e : Element}
    (h : FieldAcceptable before e) (hsub : relationNames before ⊆ relationNames before') :
    FieldAcceptable before' e := by
  obtain ⟨relation, direction, hjoins, hknown⟩ := h.relation
  exact ⟨h.name, h.type, h.decimalPlaces, relation, direction, hjoins, hsub hknown⟩

/-- Fields may wait until all relations are declared. -/
theorem ChildrenAcceptable.relationsFirst {es : List Element} (h : ChildrenAcceptable es) :
    ChildrenAcceptable (es.filter (·.isRelation) ++ es.filter (fun e => !e.isRelation)) := by
  have hnames : ∀ es : List Element, relationNames (es.filter (·.isRelation)) = relationNames es :=
    fun es => by simp [relationNames]
  refine allBehind_append.2 ⟨?_, ?_⟩
  · -- A relation is asked about the relations before it, and these stay before it.
    refine AllBehind.filter h _ (fun before e hrel he => ?_)
    rw [ChildAcceptable, if_pos hrel]
    exact (he.relation hrel).of_subset (by rw [hnames]; exact List.Subset.refl _)
  · -- A field is asked about its relation, which now is before it in any case.
    intro before f after hsplit
    have hf : f ∈ es.filter (fun e => !e.isRelation) := by
      rw [hsplit]
      simp
    obtain ⟨hmem, hfield⟩ := List.mem_filter.1 hf
    rw [Bool.not_eq_true'] at hfield
    obtain ⟨before', after', rfl⟩ := List.append_of_mem hmem
    rw [ChildAcceptable, if_neg (by simp [hfield])]
    refine ((h before' f after' rfl).field hfield).of_subset (fun name hname => ?_)
    have happend : ∀ es es' : List Element,
        relationNames (es ++ es') = relationNames es ++ relationNames es' :=
      fun es es' => by simp [relationNames]
    rw [happend, hnames, happend]
    exact List.mem_append_left _ (List.mem_append_left _ hname)

/-- To put the relations first is to mingle them otherwise. -/
theorem interleaves_relationsFirst (d : Element) : d.Interleaves d.relationsFirst where
  attributes := fun _ => rfl
  children := (List.filter_append_perm _ _).symm
  relations := fun direction => (filter_filter_append true (by simp +contextual) _).symm
  fields := fun name _ => (filter_filter_append false (by simp +contextual) _).symm

/-- What is acceptable stays so with its relations first. -/
theorem DeclarationAcceptable.relationsFirst {taken : List String} {d : Element}
    (h : DeclarationAcceptable taken d) : DeclarationAcceptable taken d.relationsFirst := by
  refine ⟨h.tag, h.kind, h.children.relationsFirst, ?_⟩
  intro hreduce operand values hoperand hlists token htoken
  -- Whether an output has a field does not depend on the order of the children.
  have hmem : ∀ e, e ∈ d.relationsFirst.children ↔ e ∈ d.children :=
    fun e => (List.filter_append_perm _ _).mem_iff
  simpa only [NamesOutputField, hmem] using h.operands hreduce operand values hoperand hlists token
    htoken

/-! ### The declaration -/

/-- If a declaration compiles, then every other that interleaves the same relations and fields, and
compiles into the same workflow, leaves the same workflow. The one with all relations in front does
compile. -/
theorem compileActivity_interleaved {d : Element} {c c₁ : Compilation} {id : ActivityId}
    (h : (compileActivity d).run c = (.ok id, c₁)) :
    (∀ d' id' c₂, d.Interleaves d' → (compileActivity d').run c = (.ok id', c₂) →
      id' = id ∧ c₂.workflow = c₁.workflow) ∧
    ∃ c₂, (compileActivity d.relationsFirst).run c = (.ok id, c₂) ∧
      c₂.workflow = c₁.workflow := by
  obtain ⟨hd, rfl, shell, hshell, hext⟩ := extends_of_run_compileActivity h
  have hsame : ∀ d' id' c₂, d.Interleaves d' → (compileActivity d').run c = (.ok id', c₂) →
      id' = ⟨c.workflow.size⟩ ∧ c₂.workflow = c₁.workflow := by
    intro d' id' c₂ hinterleaves hrun
    obtain ⟨hd', rfl, shell', hshell', hext'⟩ := extends_of_run_compileActivity hrun
    rw [hinterleaves.ofElement_eq_ok hshell, Except.ok.injEq] at hshell'
    subst hshell'
    rw [← hinterleaves.completed_eq hd.children hd'.children] at hext'
    exact ⟨rfl, hext'.unique hext⟩
  -- With its relations first the declaration compiles, and then to the same workflow.
  obtain ⟨shell', c₂, -, hrun, -⟩ := run_compileActivity_of_acceptable hd.relationsFirst
  exact ⟨hsame, c₂, hrun, (hsame _ _ _ (interleaves_relationsFirst d) hrun).2⟩

/-- Two outputs, one of them with two fields, and an input with one. -/
def mingled : Element :=
  ⟨"Activity", .ofList [("tag", "a"), ("type", "map")], [
    ⟨"Relation", .ofList [("name", "o"), ("reltype", "output")], []⟩,
    ⟨"Field", .ofList [("name", "x"), ("type", "int"), ("output", "o")], []⟩,
    ⟨"Relation", .ofList [("name", "i"), ("reltype", "input")], []⟩,
    ⟨"Field", .ofList [("name", "z"), ("type", "int"), ("input", "i")], []⟩,
    ⟨"Field", .ofList [("name", "y"), ("type", "int"), ("input", "o")], []⟩,
    ⟨"Relation", .ofList [("name", "p"), ("reltype", "output")], []⟩]⟩

/-- The same with the input in front. -/
def mingledOtherwise : Element :=
  ⟨"Step", .ofList [("tag", "a"), ("type", "map")], [
    ⟨"Relation", .ofList [("name", "i"), ("reltype", "input")], []⟩,
    ⟨"Relation", .ofList [("name", "o"), ("reltype", "output")], []⟩,
    ⟨"Field", .ofList [("name", "x"), ("type", "int"), ("output", "o")], []⟩,
    ⟨"Field", .ofList [("name", "y"), ("type", "int"), ("input", "o")], []⟩,
    ⟨"Relation", .ofList [("name", "p"), ("reltype", "output")], []⟩,
    ⟨"Field", .ofList [("name", "z"), ("type", "int"), ("input", "i")], []⟩]⟩

/-- A declaration with two relations and their fields, mingled in two ways and with the
relations first, gives one workflow. -/
theorem compileActivity_interleaved_mingled : mingled.Interleaves mingledOtherwise ∧
    ∃ id c₁ c₂ c₃,
      (compileActivity mingled).run ⟨.start "w" none, []⟩ = (.ok id, c₁) ∧
      (compileActivity mingledOtherwise).run ⟨.start "w" none, []⟩ = (.ok id, c₂) ∧
      (compileActivity mingled.relationsFirst).run ⟨.start "w" none, []⟩ = (.ok id, c₃) ∧
      c₂.workflow = c₁.workflow ∧ c₃.workflow = c₁.workflow := by
  have hinterleaves : mingled.Interleaves mingledOtherwise := by
    refine ⟨fun _ => rfl, by decide +kernel, ?_, by decide +kernel⟩
    intro direction
    cases direction <;> decide +kernel
  have hok : ((compileActivity mingled).run ⟨.start "w" none, []⟩).1 = .ok ⟨0⟩ := by
    decide +kernel
  have hok' : ((compileActivity mingledOtherwise).run ⟨.start "w" none, []⟩).1 = .ok ⟨0⟩ := by
    decide +kernel
  obtain ⟨hsame, c₃, hrun₃, hfirst⟩ := compileActivity_interleaved (Prod.ext hok rfl)
  obtain ⟨-, heq⟩ := hsame _ _ _ hinterleaves (Prod.ext hok' rfl)
  exact ⟨hinterleaves, ⟨0⟩, _, _, c₃, Prod.ext hok rfl, Prod.ext hok' rfl, hrun₃, heq, hfirst⟩

end FlowGraph
