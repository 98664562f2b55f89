import FlowGraph.Proofs.Compile.Declaration

/-!
# `FlowGraph.Proofs.Compile.Document`: compiling a document

`CompiledFrom ds w` says what the declarations `ds` come to as a workflow: an entry each, in
order, under its tag. It is the invariant of the walk over the declarations, and compiling is
known from it:

* `compile_of_acceptable`: an acceptable document compiles, into what its declarations come to.
* `compile_of_fault`: any other document is refused with its first fault.
* `describes_of_compile`: so whatever compiles is acceptable, and this is what comes out.
-/

set_option autoImplicit false

namespace FlowGraph

/-! ### What declarations come to -/

/-- What a dependency on a tag is kept as where the tags `earlier` can be seen. -/
def visibleTag (earlier : List String) (t : String) : Option String :=
  if t ∈ earlier then some t else none

/-- The workflow holds one entry for each declaration: the activity that the declaration comes
to where the tags of the declarations before it can be seen, under its tag. -/
structure CompiledFrom (ds : List Element) (w : Workflow) : Prop where
  size : w.size = ds.length
  keys : w.activities.keys = activityTags ds
  entry : ∀ i d, ds[i]? = some d → ∃ shell, Activity.ofElement d = .ok shell ∧
    w.activities.entries[i]?
      = some (shell.tag, shell.completed (visibleTag (activityTags (ds.take i))) d)

/-- One more declaration adds its tag. -/
theorem activityTags_concat {ds : List Element} {d : Element} {shell : Activity}
    (h : Activity.ofElement d = .ok shell) :
    activityTags (ds ++ [d]) = activityTags ds ++ [shell.tag] := by
  simp [activityTags, (Activity.ofElement_eq_ok_iff.1 h).1]

namespace CompiledFrom

variable {ds : List Element} {w : Workflow}

/-- A workflow without activities is compiled from no declarations. -/
theorem start (tag : String) (description : Option String) :
    CompiledFrom [] (.start tag description) where
  size := rfl
  keys := rfl
  entry := by
    intro i d h
    cases h

/-- The activity at the position of a declaration is the one that it comes to. -/
theorem activity (h : CompiledFrom ds w) {i : Nat} {d : Element} (hd : ds[i]? = some d) :
    ∃ shell, Activity.ofElement d = .ok shell ∧ w.activity? ⟨i⟩
      = some (shell.completed (visibleTag (activityTags (ds.take i))) d) := by
  obtain ⟨shell, hshell, hentry⟩ := h.entry i d hd
  refine ⟨shell, hshell, ?_⟩
  rw [Workflow.activity?, Table.at?, Table.values, List.getElem?_map, hentry]
  rfl

/-- Every activity is what the declaration at its position comes to. -/
theorem exists_completed (h : CompiledFrom ds w) {i : Nat} {a : Activity}
    (ha : w.activity? ⟨i⟩ = some a) :
    ∃ d shell, ds[i]? = some d ∧ Activity.ofElement d = .ok shell ∧
      a = shell.completed (visibleTag (activityTags (ds.take i))) d := by
  have hlt : i < ds.length := h.size ▸ Workflow.lt_size_of_activity? ha
  obtain ⟨shell, hshell, hactivity⟩ := h.activity (List.getElem?_eq_getElem hlt)
  exact ⟨ds[i], shell, List.getElem?_eq_getElem hlt, hshell,
    Option.some.inj (ha.symm.trans hactivity)⟩

/-- Activities are kept under their own tags. -/
theorem tag_of_get? (h : CompiledFrom ds w) {t : String} {a : Activity} (ha : w.get? t = some a) :
    a.tag = t := by
  obtain ⟨i, hi, heq⟩ := List.mem_iff_getElem.1 (Table.get?_eq_some_iff.1 ha)
  have hlt : i < ds.length := h.size ▸ hi
  obtain ⟨shell, -, hentry⟩ := h.entry i ds[i] (List.getElem?_eq_getElem hlt)
  rw [List.getElem?_eq_getElem hi, heq, Option.some.injEq, Prod.mk.injEq] at hentry
  rw [hentry.1, hentry.2, Activity.completed_tag]

/-- The tags that can be linked to are those of the declarations. -/
theorem linkedTag_eq (h : CompiledFrom ds w) : w.linkedTag = visibleTag (activityTags ds) := by
  funext t
  rw [Workflow.linkedTag, visibleTag, ← h.keys]
  cases ha : w.get? t with
  | none => rw [if_neg (Table.get?_eq_none_iff.1 ha), Option.map_none]
  | some a =>
      rw [if_pos (Table.mem_keys_of_mem (Table.get?_eq_some_iff.1 ha)), Option.map_some,
        h.tag_of_get? ha]

/-- One declaration more adds its entry at the end. -/
theorem concat (h : CompiledFrom ds w) {d : Element} {shell : Activity} {w' : Workflow}
    (hshell : Activity.ofElement d = .ok shell)
    (hext : w.Extends w' shell.tag (shell.completed w.linkedTag d)) :
    CompiledFrom (ds ++ [d]) w' where
  size := by rw [hext.size_eq, h.size, List.length_append, List.length_singleton]
  keys := by rw [hext.keys, h.keys, activityTags_concat hshell]
  entry := by
    intro i x hx
    have hsize : w.activities.entries.length = ds.length := h.size
    rw [hext.entries]
    -- Earlier positions are as they were; the new one has all earlier declarations before it.
    rcases Nat.lt_or_ge i ds.length with hlt | hge
    · rw [List.getElem?_append_left hlt] at hx
      rw [List.getElem?_append_left (hsize ▸ hlt), List.take_append_of_le_length (Nat.le_of_lt hlt)]
      exact h.entry i x hx
    · obtain ⟨hlt, -⟩ := List.getElem?_eq_some_iff.1 hx
      rw [List.length_append, List.length_singleton] at hlt
      obtain rfl : i = ds.length := by omega
      rw [List.getElem?_concat_length, Option.some.injEq] at hx
      subst hx
      refine ⟨shell, hshell, ?_⟩
      rw [List.take_left, ← h.linkedTag_eq, ← hsize, List.getElem?_concat_length]

end CompiledFrom

/-! ### The walk over the declarations -/

/-- What holds when the declarations `ds` are compiled into what was `w` before. -/
structure CompiledInto (w : Workflow) (ds : List Element) (c : Compilation) : Prop where
  tag : c.workflow.tag = w.tag
  description : c.workflow.description = w.description
  compiled : CompiledFrom ds c.workflow

section Declarations

variable {w : Workflow} {ds : List Element} {d : Element} {c : Compilation}

/-- An acceptable declaration is compiled into the workflow behind those before it. -/
theorem CompiledInto.step (h : CompiledInto w ds c)
    (hd : DeclarationAcceptable (activityTags ds) d) :
    ∃ c', (do let _ ← compileActivity d : CompileM Unit).run c = (.ok (), c') ∧
      CompiledInto w (ds ++ [d]) c' := by
  rw [← h.compiled.keys] at hd
  obtain ⟨shell, c', hshell, hrun, hext⟩ := run_compileActivity_of_acceptable hd
  refine ⟨c', CompileM.run_bind_of_ok hrun, ?_⟩
  exact ⟨hext.tag.trans h.tag, hext.description.trans h.description,
    h.compiled.concat hshell hext⟩

/-- A declaration with a fault fails with this fault. -/
theorem CompiledInto.run_of_fault (h : CompiledInto w ds c) {err : CompileError}
    (hfault : DeclarationFault (activityTags ds) d err) :
    ∃ c', (do let _ ← compileActivity d : CompileM Unit).run c = (.error err, c') := by
  rw [← h.compiled.keys] at hfault
  obtain ⟨c', hrun⟩ := run_compileActivity_of_fault hfault
  exact ⟨c', CompileM.run_bind_of_error hrun⟩

/-- Acceptable declarations compile one after another. -/
theorem run_compileActivities_of_acceptable (hstart : CompiledInto w [] c)
    (h : DeclarationsAcceptable ds) :
    ∃ c', (compileActivities ds).run c = (.ok (), c') ∧ CompiledInto w ds c' := by
  rw [compileActivities, CompileM.forM_eq_foldlM]
  obtain ⟨_, c', hrun, hcompiled⟩ := CompileM.run_foldlM_of_allBehind
    (I := fun ds _ c => CompiledInto w ds c) (fun _ _ _ _ hI hd => ⟨(), hI.step hd⟩) hstart h
  exact ⟨c', hrun, hcompiled⟩

/-- The first declaration that is not acceptable ends compiling. -/
theorem run_compileActivities_of_first (hstart : CompiledInto w [] c)
    {before : List Element} {err : CompileError} (after : List Element)
    (hbefore : DeclarationsAcceptable before)
    (hfault : DeclarationFault (activityTags before) d err) :
    ∃ c', (compileActivities (before ++ d :: after)).run c = (.error err, c') := by
  rw [compileActivities, CompileM.forM_eq_foldlM]
  obtain ⟨c', hrun, -⟩ := CompileM.run_foldlM_of_first (Q := fun _ => True)
    (I := fun ds _ c => CompiledInto w ds c) after
    (fun _ _ _ _ hI hd => ⟨(), hI.step hd⟩) hstart hbefore
    (fun _ _ hI => by
      obtain ⟨c', hrun⟩ := hI.run_of_fault hfault
      exact ⟨c', hrun, trivial⟩)
  exact ⟨c', hrun⟩

end Declarations

/-! ### Documents -/

/-- Compiling starts with no declarations. -/
theorem compiledInto_start (tag : String) (e : Element) (database : Option Connection) :
    CompiledInto (.start tag (e.attribute? "description")) [] (.start tag e database) :=
  ⟨rfl, rfl, .start tag (e.attribute? "description")⟩

/-- The connection of the database that a document has a section for. -/
def Element.connection? (root : Element) : Option Connection :=
  (root.firstChild? Connection.elementName).map Connection.ofElement

/-- What a compiled workflow has to do with the element that describes it. -/
structure Describes (e : Element) (w : Workflow) : Prop where
  tag : e.attribute? "tag" = some w.tag
  description : w.description = e.attribute? "description"
  acceptable : DeclarationsAcceptable e.children
  compiled : CompiledFrom e.children w

/-- An acceptable document compiles. -/
theorem compile_of_acceptable {root : Element} (h : DocumentAcceptable root) :
    ∃ e doc, root.firstChild? workflowElement = some e ∧ (compile root).1 = .ok doc ∧
      Describes e doc.workflow := by
  obtain ⟨e, hfirst, ⟨tag, htag⟩, hall⟩ := h
  obtain ⟨c, hrun, hcompiled⟩ := run_compileActivities_of_acceptable
    (compiledInto_start tag e root.connection?) hall
  refine ⟨e, ⟨c.workflow, root.connection?⟩, hfirst, ?_, ?_⟩
  · rw [Element.connection?] at hrun
    rw [compile, Element.requiredChild, hfirst]
    simp only [Element.requiredAttribute_eq_ok_iff.2 htag, hrun]
    rfl
  · exact ⟨htag.trans (congrArg some hcompiled.tag.symm), hcompiled.description, hall,
      hcompiled.compiled⟩

/-- A document with a fault is refused with it. -/
theorem compile_of_fault {root : Element} {err : CompileError} (h : DocumentFault root err) :
    (compile root).1 = .error err := by
  cases h with
  | noWorkflow hnone => rw [compile, Element.requiredChild, hnone]
  | noTag hfirst hnone =>
      rw [compile, Element.requiredChild, hfirst]
      simp only [Element.requiredAttribute_of_none hnone]
  | @declaration e d tag before after err hfirst htag hsplit hbefore hfault =>
      obtain ⟨c, hrun⟩ := run_compileActivities_of_first
        (compiledInto_start tag e root.connection?) after hbefore hfault
      rw [← hsplit, Element.connection?] at hrun
      rw [compile, Element.requiredChild, hfirst]
      simp only [Element.requiredAttribute_eq_ok_iff.2 htag, hrun]

/-- Whatever compiles is the workflow that its document describes. -/
theorem describes_of_compile {root : Element} {doc : CompiledDocument}
    (h : (compile root).1 = .ok doc) :
    ∃ e, root.firstChild? workflowElement = some e ∧ Describes e doc.workflow := by
  rcases documentAcceptable_or_fault root with hroot | ⟨err, herr⟩
  · obtain ⟨e, doc', hfirst, hok, hdescribes⟩ := compile_of_acceptable hroot
    rw [h] at hok
    cases hok
    exact ⟨e, hfirst, hdescribes⟩
  · have herror := compile_of_fault herr
    rw [h] at herror
    cases herror

/-- A document compiles exactly if it is acceptable, and is refused with an error exactly if this
is its first fault. -/
theorem compile_accepts_exactly (root : Element) :
    ((∃ doc, (compile root).1 = .ok doc) ↔ DocumentAcceptable root) ∧
      ∀ err, (compile root).1 = .error err ↔ DocumentFault root err := by
  rcases documentAcceptable_or_fault root with hroot | ⟨first, hfirst⟩
  · obtain ⟨-, doc, -, hok, -⟩ := compile_of_acceptable hroot
    refine ⟨⟨fun _ => hroot, fun _ => ⟨doc, hok⟩⟩, fun err => ⟨fun herr => ?_, compile_of_fault⟩⟩
    rw [hok] at herr
    cases herr
  · have hfault := compile_of_fault hfirst
    refine ⟨⟨?_, fun hroot => ?_⟩, fun err => ⟨fun herr => ?_, compile_of_fault⟩⟩
    · rintro ⟨doc, hok⟩
      rw [hfault] at hok
      cases hok
    · obtain ⟨-, doc, -, hok, -⟩ := compile_of_acceptable hroot
      exact ⟨doc, hok⟩
    · rw [hfault] at herr
      cases herr
      exact hfirst

/-- A document whose second activity reduces, with the given operands. Its output has the field
`n`; `m` is a field of its input. -/
def aggregating (operand : String) : Element :=
  ⟨"Document", .empty, [⟨"Workflow", .ofList [("tag", "w")], [
    ⟨"Activity", .ofList [("tag", "a"), ("type", "map")], [
      ⟨"Relation", .ofList [("name", "p"), ("reltype", "output")], []⟩]⟩,
    ⟨"Activity", .ofList [("tag", "b"), ("type", " Reduce "), ("operand", operand)], [
      ⟨"Relation", .ofList [("name", "p"), ("reltype", "input"), ("dependency", "a")], []⟩,
      ⟨"Field", .ofList [("name", "m"), ("type", "int"), ("input", "p")], []⟩,
      ⟨"Relation", .ofList [("name", "q"), ("reltype", "OUTPUT")], []⟩,
      ⟨"Field", .ofList [("name", "n"), ("type", "float"), ("decimalplaces", " +02 "),
        ("output", "q")], []⟩]⟩]⟩]⟩

/-- The text `" n ,,"` lists one operand, a field of the output. The text `"n, m"` lists a
second one, and this is the fault of the document. -/
theorem compile_accepts_exactly_aggregating :
    DocumentAcceptable (aggregating " n ,,") ∧
      DocumentFault (aggregating "n, m") (.missingAggregationField "b" "m") := by
  have hok : (compile (aggregating " n ,,")).1.toOption.isSome = true := by decide +kernel
  have hrefused : (compile (aggregating "n, m")).1
      = .error (.missingAggregationField "b" "m") := by decide +kernel
  exact ⟨(compile_accepts_exactly _).1.1 (exists_ok_of_isSome_toOption hok),
    ((compile_accepts_exactly _).2 _).1 hrefused⟩

end FlowGraph
