import Mathlib.Data.List.Perm.Basic
import FlowGraph.Proofs.Compile.Dependencies
import FlowGraph.Proofs.Table

/-!
# `FlowGraph.Proofs.Compile.Reordering`: the order of unrelated declarations

The declarations of a workflow may be put in another order, as long as each relation that asks
for a dependency still has it before itself, or still has not (`Element.Reorders`).

* `declarationsAcceptable_perm_iff`: whether declarations are acceptable does not depend on their
  order at all. Each has to be acceptable by itself, and their tags have to be distinct.
* `completed_congr`: what a declaration comes to depends on what is before it only through the
  tags that its relations ask for.
* `compile_reordered`: so the two documents compile alike, into the same activities.

A tag is distinct where a document compiles, so a declaration has one position, and "before it"
means one thing.
-/

set_option autoImplicit false

namespace FlowGraph

/-- The declaration `d` stands at a position with a declaration of the tag `t` before it. -/
def DeclaredBefore (ds : List Element) (t : String) (d : Element) : Prop :=
  ∃ j, j < ds.length ∧ ds[j]? = some d ∧ t ∈ activityTags (ds.take j)

instance (ds : List Element) (t : String) (d : Element) : Decidable (DeclaredBefore ds t d) :=
  inferInstanceAs (Decidable (∃ j, j < ds.length ∧ ds[j]? = some d ∧ t ∈ activityTags (ds.take j)))

/-- Two elements describe a workflow with the same declarations in another order: their
attributes are equal, and what a relation asks for as its dependency comes before its declaration
in both orders or in none. -/
structure Element.Reorders (e e' : Element) : Prop where
  attributes : ∀ name, e.attribute? name = e'.attribute? name
  declarations : e.children.Perm e'.children
  dependencies : ∀ d ∈ e.children, ∀ r ∈ d.children, r.isRelation = true →
    ∀ t ∈ r.attribute? "dependency", DeclaredBefore e.children t d ↔ DeclaredBefore e'.children t d

/-- Reordering goes both ways. -/
theorem Element.Reorders.symm {e e' : Element} (h : e.Reorders e') : e'.Reorders e where
  attributes := fun name => (h.attributes name).symm
  declarations := h.declarations.symm
  dependencies := by
    intro d hd r hr hrel t ht
    exact (h.dependencies d (h.declarations.mem_iff.2 hd) r hr hrel t ht).symm

/-! ### Acceptance in any order -/

/-- Tags that are taken matter to a declaration only if one of them is its own. -/
theorem declarationAcceptable_iff {taken : List String} {d : Element} :
    DeclarationAcceptable taken d ↔
      DeclarationAcceptable [] d ∧ ∀ t, d.attribute? "tag" = some t → t ∉ taken := by
  constructor
  · intro h
    obtain ⟨tag, htag, hnew⟩ := h.tag
    refine ⟨⟨⟨tag, htag, by simp⟩, h.kind, h.children, h.operands⟩, ?_⟩
    intro t ht
    rw [htag, Option.some.injEq] at ht
    exact ht ▸ hnew
  · rintro ⟨h, hnew⟩
    obtain ⟨tag, htag, -⟩ := h.tag
    exact ⟨⟨tag, htag, hnew tag htag⟩, h.kind, h.children, h.operands⟩

/-- Declarations are acceptable if each is by itself and no two of them have one tag. -/
theorem declarationsAcceptable_iff {ds : List Element} :
    DeclarationsAcceptable ds ↔
      (∀ d ∈ ds, DeclarationAcceptable [] d) ∧ (activityTags ds).Nodup := by
  -- From the end, because a declaration is asked about the tags before it.
  induction ds using List.reverseRecOn with
  | nil => exact ⟨fun _ => ⟨by simp, List.nodup_nil⟩, fun _ => allBehind_nil _⟩
  | append_singleton ds d ih =>
      have hconcat : DeclarationsAcceptable (ds ++ [d]) ↔
          DeclarationsAcceptable ds ∧ DeclarationAcceptable (activityTags ds) d := allBehind_concat
      rw [hconcat, ih, declarationAcceptable_iff, List.forall_mem_append, List.forall_mem_singleton]
      have htags : ∀ h : DeclarationAcceptable [] d, (activityTags (ds ++ [d])).Nodup ↔
          (activityTags ds).Nodup ∧ ∀ t, d.attribute? "tag" = some t → t ∉ activityTags ds := by
        intro h
        obtain ⟨tag, htag, -⟩ := h.tag
        have happend : activityTags (ds ++ [d]) = activityTags ds ++ [tag] := by
          simp [activityTags, htag]
        rw [happend, List.nodup_append_comm, List.singleton_append, List.nodup_cons, htag]
        simp [and_comm]
      constructor
      · rintro ⟨⟨hall, hnodup⟩, hd, hnew⟩
        exact ⟨⟨hall, hd⟩, (htags hd).2 ⟨hnodup, hnew⟩⟩
      · rintro ⟨⟨hall, hd⟩, hnodup⟩
        obtain ⟨hnodup, hnew⟩ := (htags hd).1 hnodup
        exact ⟨⟨hall, hnodup⟩, hd, hnew⟩

/-- Declarations are acceptable in every order or in none. -/
theorem declarationsAcceptable_perm_iff {ds ds' : List Element} (h : ds.Perm ds') :
    DeclarationsAcceptable ds ↔ DeclarationsAcceptable ds' := by
  have htags : (activityTags ds).Perm (activityTags ds') := h.filterMap _
  rw [declarationsAcceptable_iff, declarationsAcceptable_iff, htags.nodup_iff]
  simp only [h.mem_iff]

/-! ### What a declaration comes to -/

/-- Relations depend on what their dependencies are linked to, and on no other link. -/
theorem relationsOf_congr {link link' : String → Option String} {es : List Element}
    (h : ∀ r ∈ es, r.isRelation = true → ∀ t ∈ r.attribute? "dependency", link t = link' t)
    (direction : Direction) : relationsOf link es direction = relationsOf link' es direction := by
  refine List.map_congr_left ?_
  intro d hd
  obtain ⟨r, hr, hrel, hread⟩ := mem_declaredRelations.1 (List.mem_filter.1 hd).1
  have hdependency := (RelationDeclaration.ofElement_eq_ok_iff.1 hread).2.2
  have hlink : d.dependency.bind link = d.dependency.bind link' := by
    rw [hdependency]
    cases ht : r.attribute? "dependency" with
    | none => rfl
    | some t => exact h r hr hrel t ht
  rw [Relation.ofDeclaration, Relation.ofDeclaration, hlink]

/-- Completing an activity asks only for the dependencies that its relations give. -/
theorem Activity.completed_congr {link link' : String → Option String} {d : Element}
    (h : ∀ r ∈ d.children, r.isRelation = true → ∀ t ∈ r.attribute? "dependency", link t = link' t)
    (shell : Activity) : shell.completed link d = shell.completed link' d := by
  rw [Activity.completed, Activity.completed, Activity.filled, Activity.filled,
    relationsOf_congr h, relationsOf_congr h]

namespace CompiledFrom

variable {ds ds' : List Element} {w w' : Workflow}

/-- In a compiled document a declaration has one position, so what is before it is what is before
this position. -/
theorem declaredBefore_iff (h : CompiledFrom ds w) {i : Nat} {d : Element} (hd : ds[i]? = some d)
    (t : String) : DeclaredBefore ds t d ↔ t ∈ activityTags (ds.take i) := by
  constructor
  · rintro ⟨j, -, hj, ht⟩
    obtain ⟨shell, hshell, -⟩ := h.entry i d hd
    have htag := (Activity.ofElement_eq_ok_iff.1 hshell).1
    obtain rfl : j = i := h.index_inj hj hd htag htag
    exact ht
  · intro ht
    obtain ⟨hlt, -⟩ := List.getElem?_eq_some_iff.1 hd
    exact ⟨i, hlt, hd, ht⟩

/-- Every entry of a workflow is an entry of the reordered one. -/
theorem entries_subset (h : CompiledFrom ds w) (h' : CompiledFrom ds' w') (hsub : ds ⊆ ds')
    (hdependencies : ∀ d ∈ ds, ∀ r ∈ d.children, r.isRelation = true →
      ∀ t ∈ r.attribute? "dependency", DeclaredBefore ds t d ↔ DeclaredBefore ds' t d) :
    w.activities.entries ⊆ w'.activities.entries := by
  intro entry hentry
  obtain ⟨i, hi⟩ := List.mem_iff_getElem?.1 hentry
  obtain ⟨hlt, -⟩ := List.getElem?_eq_some_iff.1 hi
  have hsize : w.activities.entries.length = ds.length := h.size
  obtain ⟨d, hd⟩ : ∃ d, ds[i]? = some d := ⟨_, List.getElem?_eq_getElem (hsize ▸ hlt)⟩
  have hmem : d ∈ ds := List.mem_of_getElem? hd
  obtain ⟨j, hj⟩ := List.mem_iff_getElem?.1 (hsub hmem)
  obtain ⟨shell, hshell, hi'⟩ := h.entry i d hd
  obtain ⟨shell', hshell', hj'⟩ := h'.entry j d hj
  rw [hshell, Except.ok.injEq] at hshell'
  subst hshell'
  -- What its relations ask for is visible at both positions or at none.
  have hvisible : ∀ r ∈ d.children, r.isRelation = true → ∀ t ∈ r.attribute? "dependency",
      visibleTag (activityTags (ds.take i)) t = visibleTag (activityTags (ds'.take j)) t := by
    intro r hr hrel t ht
    have hiff := hdependencies d hmem r hr hrel t ht
    rw [h.declaredBefore_iff hd, h'.declaredBefore_iff hj] at hiff
    simp only [visibleTag, hiff]
  rw [hi, Option.some.injEq] at hi'
  rw [hi', Activity.completed_congr hvisible]
  exact List.mem_of_getElem? hj'

end CompiledFrom

/-! ### Equal workflows -/

/-- Workflows with the same entries in any order find the same under every key. -/
theorem Workflow.get?_eq_of_perm {v w : Workflow}
    (h : v.activities.entries.Perm w.activities.entries) (key : String) :
    v.get? key = w.get? key := by
  apply Option.ext
  intro a
  rw [get?, get?, Table.get?_eq_some_iff, Table.get?_eq_some_iff, h.mem_iff]

/-- Workflows with the same entries in any order are equal up to order. -/
theorem Workflow.sameUpToOrder_of_perm {v w : Workflow} (htag : v.tag = w.tag)
    (hdescription : v.description = w.description)
    (h : v.activities.entries.Perm w.activities.entries) : v.sameUpToOrder w = true := by
  have hsize : v.size = w.size := h.length_eq
  rw [sameUpToOrder, htag, hdescription, hsize]
  simp only [beq_self_eq_true, Bool.true_and, List.all_eq_true]
  rintro ⟨key, a⟩ hentry
  have hget : w.get? key = some a := Table.get?_eq_some_iff.2 (h.mem_iff.1 hentry)
  simp [hget, Table.sameEntries_self]

/-! ### Documents -/

/-- A document with a tagged workflow compiles exactly if its declarations are acceptable. -/
theorem exists_compile_iff {root e : Element} (hfirst : root.firstChild? workflowElement = some e) :
    (∃ doc, (compile root).1 = .ok doc) ↔
      (∃ tag, e.attribute? "tag" = some tag) ∧ DeclarationsAcceptable e.children := by
  constructor
  · rintro ⟨doc, hdoc⟩
    obtain ⟨e', hfirst', hdescribes⟩ := describes_of_compile hdoc
    rw [hfirst, Option.some.injEq] at hfirst'
    subst hfirst'
    exact ⟨⟨_, hdescribes.tag⟩, hdescribes.acceptable⟩
  · rintro ⟨htag, hall⟩
    obtain ⟨-, doc, -, hdoc, -⟩ := compile_of_acceptable ⟨e, hfirst, htag, hall⟩
    exact ⟨doc, hdoc⟩

/-- Two documents with the same declarations in different orders, where each relation has what it
asks for before itself in both or in none, compile both or none. The workflows are then equal up
to the order of their activities, and every dependency leads to the same activity. -/
theorem compile_reordered {root root' e e' : Element}
    (hfirst : root.firstChild? workflowElement = some e)
    (hfirst' : root'.firstChild? workflowElement = some e') (h : e.Reorders e') :
    ((∃ doc, (compile root).1 = .ok doc) ↔ ∃ doc, (compile root').1 = .ok doc) ∧
      ∀ doc doc', (compile root).1 = .ok doc → (compile root').1 = .ok doc' →
        doc.workflow.sameUpToOrder doc'.workflow = true ∧
        doc.workflow.tag = doc'.workflow.tag ∧
        doc.workflow.description = doc'.workflow.description ∧
        doc.workflow.activities.entries.Perm doc'.workflow.activities.entries ∧
        ∀ r, doc.workflow.dependencyOf? r = doc'.workflow.dependencyOf? r := by
  refine ⟨?_, ?_⟩
  · rw [exists_compile_iff hfirst, exists_compile_iff hfirst', h.attributes,
      declarationsAcceptable_perm_iff h.declarations]
  · intro doc doc' hdoc hdoc'
    obtain ⟨f, hf, hdescribes⟩ := describes_of_compile hdoc
    obtain ⟨f', hf', hdescribes'⟩ := describes_of_compile hdoc'
    rw [hfirst, Option.some.injEq] at hf
    rw [hfirst', Option.some.injEq] at hf'
    subst hf hf'
    have htag : doc.workflow.tag = doc'.workflow.tag := by
      have heq := h.attributes "tag"
      rwa [hdescribes.tag, hdescribes'.tag, Option.some.injEq] at heq
    have hdescription : doc.workflow.description = doc'.workflow.description := by
      rw [hdescribes.description, hdescribes'.description, h.attributes]
    -- Each order makes the entries of the other, and no entry is there twice.
    have hsub := hdescribes.compiled.entries_subset hdescribes'.compiled h.declarations.subset
      h.dependencies
    have hsub' := hdescribes'.compiled.entries_subset hdescribes.compiled
      h.symm.declarations.subset h.symm.dependencies
    have hperm : doc.workflow.activities.entries.Perm doc'.workflow.activities.entries :=
      (List.perm_ext_iff_of_nodup (Table.nodup_entries _) (Table.nodup_entries _)).2
        (fun entry => ⟨fun hmem => hsub hmem, fun hmem => hsub' hmem⟩)
    refine ⟨Workflow.sameUpToOrder_of_perm htag hdescription hperm, htag, hdescription, hperm, ?_⟩
    intro r
    rw [Workflow.dependencyOf?, Workflow.dependencyOf?]
    exact congrArg r.dependency.bind (funext (Workflow.get?_eq_of_perm hperm))

/-- A workflow with these declarations. -/
def workflowOf (declarations : List Element) : Element :=
  ⟨"Workflow", .ofList [("tag", "w")], declarations⟩

/-- A declaration with a relation for each of the dependencies that it asks for. -/
def asking (tag : String) (dependencies : List String) : Element :=
  ⟨"Activity", .ofList [("tag", tag), ("type", "map")], dependencies.map (fun t =>
    ⟨"Relation", .ofList [("name", t), ("reltype", "input"), ("dependency", t)], []⟩)⟩

/-- The activities `c` and `d` both read from `b`. One asks for a tag that is not declared, and
`b` asks for one that is declared too late. -/
def forked : Element :=
  workflowOf [asking "a" [], asking "b" ["a", "c"], asking "c" ["b"], asking "d" ["b", "x"]]

/-- The same with `d` before `c`. -/
def forkedOtherwise : Element :=
  workflowOf [asking "a" [], asking "b" ["a", "c"], asking "d" ["b", "x"], asking "c" ["b"]]

/-- Both orders give the same activities, with the same dependencies. -/
theorem compile_reordered_forked : ∃ doc doc',
    (compile ⟨"Document", .empty, [forked]⟩).1 = .ok doc ∧
      (compile ⟨"Document", .empty, [forkedOtherwise]⟩).1 = .ok doc' ∧
      doc.workflow.sameUpToOrder doc'.workflow = true ∧
      doc.workflow.tag = doc'.workflow.tag ∧
      doc.workflow.description = doc'.workflow.description ∧
      doc.workflow.activities.entries.Perm doc'.workflow.activities.entries ∧
      ∀ r, doc.workflow.dependencyOf? r = doc'.workflow.dependencyOf? r := by
  have hok : (compile ⟨"Document", .empty, [forked]⟩).1.toOption.isSome = true := by
    decide +kernel
  have hreorders : forked.Reorders forkedOtherwise :=
    ⟨fun _ => rfl, by decide +kernel, by decide +kernel⟩
  obtain ⟨doc, hdoc⟩ := exists_ok_of_isSome_toOption hok
  have hfirst : Element.firstChild? ⟨"Document", .empty, [forked]⟩ workflowElement
      = some forked := rfl
  have hfirst' : Element.firstChild? ⟨"Document", .empty, [forkedOtherwise]⟩ workflowElement
      = some forkedOtherwise := rfl
  obtain ⟨hiff, hequal⟩ := compile_reordered hfirst hfirst' hreorders
  obtain ⟨doc', hdoc'⟩ := hiff.1 ⟨doc, hdoc⟩
  exact ⟨doc, doc', hdoc, hdoc', hequal doc doc' hdoc hdoc'⟩

end FlowGraph
