import FlowGraph.Proofs.Compile.Prefixes

/-!
# `FlowGraph.Proofs.Compile.Warnings`: what is passed over is warned of

Some things that a document says are passed over: a dependency that does not come before, the
side on which a field names its relation, operands that an activity does not take. Here stands
which warnings a document asks for, said of its elements alone: `dependencyWarnings`,
`childWarnings`, `operandWarnings`, `declarationWarnings` for a declaration as a whole and
`documentWarnings` for the document. `Event.WordedAs` lists the sentences that warnings are shown
as; an unknown dependency and a late one have different ones.

* `Extends.warnings_linkDependency`, `Walk.warnings_compileChild`: one child adds the warnings
  that it asks for.
* `warnings_compileActivity`: so does a declaration. Operands that are recorded add none.
* `compile_warnings`: the warnings of a document that compiles are those that it asks for, in
  the order in which it is read, each in its words.
-/

set_option autoImplicit false

namespace FlowGraph

/-! ### Warnings that a document asks for -/

/-- The direction with which a relation of the name is declared. -/
def declaredDirection? (es : List Element) (name : String) : Option Direction :=
  (es.find? (fun e => e.isRelation && e.attribute? "name" == some name)).bind (·.direction?)

/-- Of a dependency on `t` that the activity `tag` asks for, behind activities of the tags
`earlier`. -/
def dependencyWarnings (earlier : List String) (tag t : String) : Log :=
  if t ∈ earlier then []
  else if t = tag then [.lateDependency tag t]
  else [.unknownDependency tag t]

/-- Of a child of the activity `tag`. A field that joins a relation under the attribute of the
other direction is warned of, and a relation whose dependency does not come before. -/
def childWarnings (earlier : List String) (tag : String) (siblings : List Element)
    (e : Element) : Log :=
  if e.isRelation then
    match e.attribute? "dependency" with
    | some t => dependencyWarnings earlier tag t
    | none => []
  else
    match e.attribute? "name", e.joins? with
    | some name, some (relation, named) =>
        match declaredDirection? siblings relation with
        | some actual =>
            if actual = named then [] else [.directionMismatch tag name named relation actual]
        | none => []
    | _, _ => []

/-- Of the operands of the activity `tag`, unless it reduces or evaluates. -/
def operandWarnings (tag : String) (d : Element) : Log :=
  match d.attribute? "operand", d.kind? with
  | some operand, some kind =>
      if kind = .reduce ∨ kind = .evaluate then [] else [.operandsIgnored tag kind operand]
  | _, _ => []

/-- Of a declaration: of its children in order, then of its operands. -/
def declarationWarnings (earlier : List String) (d : Element) : Log :=
  match d.attribute? "tag" with
  | some tag =>
      d.children.flatMap (childWarnings earlier tag d.children) ++ operandWarnings tag d
  | none => []

/-- Of declarations, each behind those before it. -/
def declarationsWarnings (ds : List Element) : Log :=
  gatherBehind (fun before d => declarationWarnings (activityTags before) d) ds

/-- Of a document with the workflow `e`: of the document itself if it has no section for its
database, then of the declarations. -/
def documentWarnings (root e : Element) : Log :=
  (if root.firstChild? Connection.elementName = none then [.noDatabase] else [])
    ++ declarationsWarnings e.children

/-! ### The words of warnings -/

/-- The sentence that a warning is shown as. -/
inductive Event.WordedAs : Event → String → Prop
  | noDatabase : WordedAs .noDatabase "Document has no <database> section"
  | unknownDependency (activity tag : String) :
      WordedAs (.unknownDependency activity tag)
        (s!"Activity '{activity}': dependency '{tag}' does not name any activity, " ++
          "leaving it unset")
  | lateDependency (activity tag : String) :
      WordedAs (.lateDependency activity tag)
        (s!"Activity '{activity}': dependency '{tag}' is not declared before it, " ++
          "leaving it unset")
  | directionMismatch (activity field relation : String) (named actual : Direction) :
      WordedAs (.directionMismatch activity field named relation actual)
        (s!"Activity '{activity}': field '{field}' is declared as {named.word} of relation " ++
          s!"'{relation}', which is an {actual.name} relation")
  | operandsIgnored (activity operand : String) (kind : ActivityKind) :
      WordedAs (.operandsIgnored activity kind operand)
        (s!"Activity '{activity}': {kind.name} activities take no operands, " ++
          s!"ignoring '{operand}'")
  | finding (f : Finding) : WordedAs (.finding f) f.message

/-- Every warning is shown in its words. -/
theorem Event.wordedAs_text {ev : Event} (h : ev.level = .warn) : ev.WordedAs ev.text := by
  cases ev with
  | noDatabase => exact .noDatabase
  | unknownDependency activity tag => exact .unknownDependency activity tag
  | lateDependency activity tag => exact .lateDependency activity tag
  | directionMismatch activity field named relation actual =>
      exact .directionMismatch activity field relation named actual
  | operandsIgnored activity kind operand => exact .operandsIgnored activity operand kind
  | finding f => exact .finding f
  | _ => cases h

/-- So is a whole log of warnings, one after another. -/
theorem Log.forall₂_wordedAs (log : Log) :
    List.Forall₂ Event.WordedAs log.warnings (log.warnings.map Event.text) := by
  rw [List.forall₂_map_right_iff, List.forall₂_same]
  intro ev hev
  rw [Log.warnings, List.mem_filter, decide_eq_true_eq] at hev
  exact Event.wordedAs_text hev.2

/-! ### The log -/

/-- The warnings of two logs in a row. -/
@[simp] theorem Log.warnings_append (l m : Log) :
    Log.warnings (l ++ m) = l.warnings ++ m.warnings := List.filter_append ..

/-- A record is a warning by its level. -/
theorem Log.warnings_singleton (e : Event) :
    Log.warnings [e] = if e.level = .warn then [e] else [] := by
  simp [Log.warnings, List.filter_cons]

/-- The log of one compilation is that of another. -/
def SameLog (c c' : Compilation) : Prop := c'.log = c.log

instance : IsPreorder Compilation SameLog where
  refl _ := rfl
  trans _ _ _ h h' := h'.trans h

/-- Operands that are recorded leave no record in the log. -/
theorem sameLog_compileOperand (id : ActivityId) (kind : OperandKind) (token : String) :
    CompileM.Leaves SameLog (compileOperand id kind token) := by
  refine .bind (fun _ => rfl) (fun _ => ?_)
  split
  · refine .bind .workflow (fun w => ?_)
    split
    · exact .check _
    · exact .pure ()
  · exact .pure ()

/-! ### Children -/

/-- No two relations have one name, so a relation is found by its name. -/
theorem ChildrenAcceptable.declaredDirection?_eq {es : List Element} (h : ChildrenAcceptable es)
    {d : RelationDeclaration} (hd : d ∈ declaredRelations es) :
    declaredDirection? es d.name = some d.direction := by
  obtain ⟨e, he, hrel, hread⟩ := mem_declaredRelations.1 hd
  have hname := (RelationDeclaration.ofElement_eq_ok_iff.1 hread).1
  have hsome : (es.find? (fun e => e.isRelation && e.attribute? "name" == some d.name)).isSome :=
    List.find?_isSome.2 ⟨e, he, by simp [hrel, hname]⟩
  obtain ⟨found, hfound⟩ := Option.isSome_iff_exists.1 hsome
  have hproperty := List.find?_some hfound
  rw [Bool.and_eq_true, beq_iff_eq] at hproperty
  -- What is found declares a relation of the name as well, so it declares this one.
  have hmem := List.mem_of_find?_eq_some hfound
  obtain ⟨d', hd'⟩ := h.exists_declaration hmem hproperty.1
  obtain ⟨hname', hdirection', -⟩ := RelationDeclaration.ofElement_eq_ok_iff.1 hd'
  have hsame : d'.name = d.name := Option.some.inj (hname'.symm.trans hproperty.2)
  have heq : d' = d := h.eq_of_name_eq
    (mem_declaredRelations.2 ⟨found, hmem, hproperty.1, hd'⟩) hd hsame
  rw [declaredDirection?, hfound, Option.bind_some, hdirection', heq]

/-- The place at which a relation stands has the direction with which it is declared. -/
theorem StandsAt.declaredDirection?_eq {link : String → Option String} {es siblings : List Element}
    {ref : RelationRef} {name : String} (h : StandsAt link es ref name) (hsub : es ⊆ siblings)
    (hsiblings : ChildrenAcceptable siblings) :
    declaredDirection? siblings name = some ref.direction := by
  obtain ⟨r, hr, rfl⟩ := Option.map_eq_some_iff.1 h
  obtain ⟨d, hd, rfl⟩ := List.mem_map.1 (List.mem_of_getElem? hr)
  rw [List.mem_filter, decide_eq_true_eq, mem_declaredRelations] at hd
  obtain ⟨⟨e, he, hrel, hread⟩, hdirection⟩ := hd
  rw [← hdirection]
  exact hsiblings.declaredDirection?_eq (mem_declaredRelations.2 ⟨e, hsub he, hrel, hread⟩)

/-- Linking from the last activity warns of all dependencies but those on earlier ones. -/
theorem Workflow.Extends.warnings_linkDependency {w w' : Workflow} {key : String} {a : Activity}
    (h : w.Extends w' key a) (hkey : a.tag = key) (t : String) :
    Log.warnings [(w'.linkDependency ⟨w.size⟩ t).2]
      = dependencyWarnings w.activities.keys key t := by
  rw [linkDependency, h.resolveDependency_eq, dependencyWarnings, h.tagOf_last, hkey]
  by_cases ht : t = key
  · simp [ht, h.not_mem_keys, Log.warnings_singleton, Event.level]
  · cases hid : w.idOf? t with
    | none =>
        have hnew : t ∉ w.activities.keys := Table.get?_eq_none_iff.1 (get?_of_idOf?_eq_none hid)
        simp [ht, hnew, Log.warnings_singleton, Event.level]
    | some id =>
        have hmem : t ∈ w.activities.keys := List.mem_of_getElem? (idOf?_eq_some_iff.1 hid)
        simp [ht, hmem, Log.warnings_singleton, Event.level]

namespace Walk

variable {w : Workflow} {shell : Activity} {es siblings : List Element} {e : Element}
  {r : Registry} {c : Compilation}

/-- A relation that is declared warns of its dependency, and of nothing else. -/
theorem warnings_compileRelation (h : Walk w shell es r c) (he : RelationAcceptable es e)
    (hrel : e.isRelation = true) :
    ((compileRelation r e).run c).2.log.warnings
      = c.log.warnings ++ childWarnings w.activities.keys shell.tag siblings e := by
  obtain ⟨d, hd, hnew⟩ := relationAcceptable_iff.1 he
  have hkeys : d.name ∉ r.relations.keys := fun hmem => hnew (h.mem_keys_iff.1 hmem)
  have hdependency := (RelationDeclaration.ofElement_eq_ok_iff.1 hd).2.2
  have hrun := Registry.run_declare_of_not_mem d.direction d.dependency hkeys h.activity?_eq
  have hstep := CompileM.run_bind_of_ok (f := fun p => pure p.2) hrun
  rw [show (compileRelation r e).run c = _ from (CompileM.run_check_bind_of_ok hd).trans hstep,
    childWarnings, if_pos hrel, ← hdependency]
  -- The record of the relation itself is no warning; that of its dependency may be one.
  have hdeclared : ∀ tag, Log.warnings [.relationDeclared tag d.direction d.name] = [] :=
    fun _ => rfl
  simp only [CompileM.run_pure, Log.warnings_append, hdeclared, List.append_nil]
  congr 1
  cases d.dependency with
  | none => rfl
  | some t =>
      rw [h.activity]
      exact h.workflow.warnings_linkDependency (Activity.filled_tag ..) t

/-- A field that is attached warns when it names its relation under the other direction, and of
nothing else. -/
theorem warnings_compileField (h : Walk w shell es r c) (he : FieldAcceptable es e)
    (hrel : e.isRelation = false) (hsub : es ⊆ siblings)
    (hsiblings : ChildrenAcceptable siblings) :
    ((compileField r e).run c).2.log.warnings
      = c.log.warnings ++ childWarnings w.activities.keys shell.tag siblings e := by
  obtain ⟨f, relation, direction, hf, hjoins, hknown⟩ := fieldAcceptable_iff.1 he
  obtain ⟨ref, href⟩ := h.exists_ref hknown
  have hname := (Field.ofElement_eq_ok_iff.1 hf).1
  -- The place knows the direction that the relation was declared with.
  have hactual := (h.place relation ref href).declaredDirection?_eq hsub hsiblings
  have hasked : childWarnings w.activities.keys shell.tag siblings e
      = if ref.direction = direction then []
        else [.directionMismatch shell.tag f.name direction relation ref.direction] := by
    simp [childWarnings, hrel, hname, hjoins, hactual]
  rw [run_compileField_eq hf hjoins href, hasked]
  simp only [Log.warnings_append, h.tagOf_eq]
  congr 1
  split
  · rfl
  · rfl

/-- A child adds the warnings that it asks for. -/
theorem warnings_compileChild (h : Walk w shell es r c) (he : ChildAcceptable es e)
    (hsub : es ⊆ siblings) (hsiblings : ChildrenAcceptable siblings) :
    ((compileChild r e).run c).2.log.warnings
      = c.log.warnings ++ childWarnings w.activities.keys shell.tag siblings e := by
  rw [compileChild]
  cases hrel : e.isRelation with
  | true =>
      rw [if_pos (Element.isRelation_iff.1 hrel)]
      exact h.warnings_compileRelation (he.relation hrel) hrel
  | false =>
      rw [if_neg (fun hname => by simp [Element.isRelation_iff.2 hname] at hrel)]
      have hfield := h.warnings_compileField (he.field hrel) hrel hsub hsiblings
      -- Behind a field the registry is handed on, and this leaves no record.
      obtain ⟨c', hrun, -⟩ := h.step_field hrel (he.field hrel)
      rw [hrun] at hfield
      rw [CompileM.run_bind_of_ok hrun]
      exact hfield

end Walk

/-! ### Declarations -/

section Declaration

variable {d : Element} {w : Workflow} {key : String} {a shell : Activity} {c : Compilation}

/-- The walk over all children adds the warnings that they ask for. -/
theorem warnings_children (hshell : Activity.ofElement d = .ok shell)
    (hext : w.Extends c.workflow shell.tag shell) (hchildren : ChildrenAcceptable d.children) :
    ∃ r c', (d.children.foldlM compileChild (.start ⟨w.size⟩)).run c = (.ok r, c') ∧
      Walk w shell d.children r c' ∧ c'.log.warnings = c.log.warnings
        ++ d.children.flatMap (childWarnings w.activities.keys shell.tag d.children) := by
  -- Each child is acceptable behind children that are all among the siblings.
  refine CompileM.run_foldlM_of_allBehind
    (P := fun before e => ChildAcceptable before e ∧ before ⊆ d.children)
    (I := fun es r c' => Walk w shell es r c' ∧ c'.log.warnings = c.log.warnings
      ++ es.flatMap (childWarnings w.activities.keys shell.tag d.children)) ?_ ?_ ?_
  · rintro before e r c' ⟨hwalk, hlog⟩ ⟨he, hsub⟩
    obtain ⟨r', c'', hrun, hwalk'⟩ := hwalk.step he
    have hadded := hwalk.warnings_compileChild he hsub hchildren
    rw [hrun, hlog] at hadded
    exact ⟨r', c'', hrun, hwalk', by simpa using hadded⟩
  · exact ⟨Walk.start (by rwa [Activity.filled_nil hshell]), by simp⟩
  · intro before e after hsplit
    exact ⟨hchildren before e after hsplit, hsplit ▸ List.subset_append_left before (e :: after)⟩

/-- Operands add a warning if they are not taken. -/
theorem warnings_compileOperands (h : w.Extends c.workflow key a) {operand : String}
    (hoperand : d.attribute? "operand" = some operand) (hkind : d.kind? = some a.kind) :
    ((compileOperands ⟨w.size⟩ operand).run c).2.log.warnings
      = c.log.warnings ++ operandWarnings a.tag d := by
  rw [operandWarnings, hoperand, hkind]
  cases htakes : a.kind.operandKind? with
  | none =>
      have hother : ¬ (a.kind = .reduce ∨ a.kind = .evaluate) := by
        rintro (hreduce | hevaluate)
        · rw [hreduce] at htakes
          cases htakes
        · rw [hevaluate] at htakes
          cases htakes
      simp only [if_neg hother]
      simp [compileOperands, CompileM.run_bind, h.activity?_last, htakes, Log.warnings_singleton,
        Event.level]
  | some kind =>
      have htaken : a.kind = .reduce ∨ a.kind = .evaluate := by
        cases hk : a.kind <;> simp_all [ActivityKind.operandKind?]
      simp only [if_pos htaken, List.append_nil]
      -- Every operand is recorded in the activity, and the log stays as it is.
      have hlog := CompileM.Leaves.forM (R := SameLog)
        (sameLog_compileOperand ⟨w.size⟩ kind) (operandTokens operand) c
      rw [SameLog] at hlog
      rw [← hlog]
      simp [compileOperands, CompileM.run_bind, h.activity?_last, htakes]

/-- A declaration adds the warnings that it asks for. -/
theorem warnings_compileActivity (h : DeclarationAcceptable c.workflow.activities.keys d) :
    ((compileActivity d).run c).2.log.warnings
      = c.log.warnings ++ declarationWarnings c.workflow.activities.keys d := by
  obtain ⟨tag, htag, hnew⟩ := h.tag
  obtain ⟨kind, hkind⟩ := h.kind
  obtain ⟨shell, hshell, rfl, rfl⟩ := exists_ofElement htag hkind
  obtain ⟨w', hext⟩ := Workflow.exists_extends shell hnew
  obtain ⟨r, c₁, hchildren, hwalk, hlog⟩ :=
    warnings_children (c := { c with workflow := w' }) hshell hext h.children
  -- The record of the activity comes last, and is no warning.
  have hfinish : ∀ (c : Compilation) (a : Activity),
      (c.finish a).log.warnings = c.log.warnings := fun c a => by
    rw [Compilation.finish, Log.warnings_append]
    exact List.append_nil _
  rw [declarationWarnings, htag]
  cases hoperand : d.attribute? "operand" with
  | none =>
      have hrun := run_compileActivity_of_parts hshell hext hchildren
        (by simp [hoperand]) (fun _ => rfl) hwalk.workflow.activity?_last
      rw [hrun, hfinish, hlog]
      simp [operandWarnings, hoperand]
  | some operand =>
      obtain ⟨c₂, hrecord, hrecorded⟩ := run_compileOperands_of_forall hwalk.workflow operand
        (by
          intro hreduce token htoken
          rw [Activity.filled_kind] at hreduce
          exact (hasOutputField_filled_iff h.children _ _ _).2
            (h.operands (hreduce ▸ hkind) operand _ hoperand (listsOperands_iff.2 rfl) token
              htoken))
      have hrun := run_compileActivity_of_parts hshell hext hchildren
        (by simp [hoperand, hrecord]) (by simp [hoperand]) hrecorded.activity?_last
      have hadded := warnings_compileOperands hwalk.workflow hoperand
        (by rwa [Activity.filled_kind])
      rw [hrecord, hlog, Activity.filled_tag] at hadded
      rw [hrun, hfinish, hadded, List.append_assoc]

end Declaration

/-- Declarations that compile one after another add the warnings that they ask for. -/
theorem warnings_compileActivities {w : Workflow} {c : Compilation} {ds : List Element}
    (hstart : CompiledInto w [] c) (h : DeclarationsAcceptable ds) :
    ((compileActivities ds).run c).2.log.warnings
      = c.log.warnings ++ declarationsWarnings ds := by
  rw [compileActivities, CompileM.forM_eq_foldlM]
  obtain ⟨_, c', hrun, -, hlog⟩ := CompileM.run_foldlM_of_allBehind
    (I := fun ds _ c' => CompiledInto w ds c' ∧ c'.log.warnings
      = c.log.warnings ++ declarationsWarnings ds)
    (by
      rintro before d _ c' ⟨hinto, hlog⟩ hd
      obtain ⟨c'', hrun, hinto'⟩ := hinto.step hd
      rw [← hinto.compiled.keys] at hd
      -- The tags before a declaration are the keys of the workflow that it is compiled into.
      have hadded := warnings_compileActivity hd
      obtain ⟨shell, c₃, -, hactivity, -⟩ := run_compileActivity_of_acceptable hd
      have hsame : (do let _ ← compileActivity d : CompileM Unit).run c' = (.ok (), c₃) :=
        CompileM.run_bind_of_ok hactivity
      rw [hactivity, hlog, hinto.compiled.keys] at hadded
      rw [hsame] at hrun
      cases hrun
      refine ⟨(), _, hsame, hinto', ?_⟩
      rw [declarationsWarnings, gatherBehind_concat, ← List.append_assoc]
      exact hadded)
    ⟨hstart, by simp [declarationsWarnings]⟩ h
  rw [hrun]
  exact hlog

/-! ### Documents -/

/-- The warnings of a document that compiles are those that it asks for, and no others: one if it
has no section for its database, then those of its declarations in order. Their texts, in the same
order, are the sentences for them. -/
theorem compile_warnings {root : Element} {doc : CompiledDocument}
    (h : (compile root).1 = .ok doc) :
    ∃ e, root.firstChild? workflowElement = some e ∧
      (compile root).2.warnings = documentWarnings root e ∧
      List.Forall₂ Event.WordedAs (documentWarnings root e)
        ((compile root).2.warnings.map Event.text) := by
  obtain ⟨e, hfirst, hdescribes⟩ := describes_of_compile h
  have hwarnings : (compile root).2.warnings = documentWarnings root e := by
    rw [(compile_eq_runDeclarations hfirst hdescribes.tag).2, Element.databaseWarning,
      runDeclarations, warnings_compileActivities
        (w := .start doc.workflow.tag (e.attribute? "description"))
        ⟨rfl, rfl, .start doc.workflow.tag (e.attribute? "description")⟩ hdescribes.acceptable,
      documentWarnings]
    -- The log starts with the warning about the database, if there is one.
    cases hdatabase : root.firstChild? Connection.elementName with
    | none => simp [Element.connection?, hdatabase, Log.warnings]
    | some database => simp [Element.connection?, hdatabase, Log.warnings]
  exact ⟨e, hfirst, hwarnings, hwarnings ▸ Log.forall₂_wordedAs (compile root).2⟩

/-- Two activities. The first asks for itself, for the second and for operands, and gives an
output a field under the other side; the second asks for the first and for no activity at all. -/
def passedOver : Element :=
  ⟨"Workflow", .ofList [("tag", "w")], [
    ⟨"Activity", .ofList [("tag", "a"), ("type", "map"), ("operand", "x")], [
      ⟨"Relation", .ofList [("name", "p"), ("reltype", "input"), ("dependency", "a")], []⟩,
      ⟨"Relation", .ofList [("name", "q"), ("reltype", "output"), ("dependency", "b")], []⟩,
      ⟨"Field", .ofList [("name", "f"), ("type", "int"), ("input", "q")], []⟩]⟩,
    ⟨"Activity", .ofList [("tag", "b"), ("type", "reduce"), ("operand", "g")], [
      ⟨"Relation", .ofList [("name", "p"), ("reltype", "input"), ("dependency", "a")], []⟩,
      ⟨"Relation", .ofList [("name", "q"), ("reltype", "output"), ("dependency", "c")], []⟩,
      ⟨"Field", .ofList [("name", "g"), ("type", "int"), ("output", "q")], []⟩]⟩]⟩

/-- All that is passed over in the document, as events and in their words. -/
theorem compile_warnings_passedOver :
    ∃ doc, (compile ⟨"Document", .empty, [passedOver]⟩).1 = .ok doc ∧
      (compile ⟨"Document", .empty, [passedOver]⟩).2.warnings
        = [.noDatabase, .lateDependency "a" "a", .unknownDependency "a" "b",
          .directionMismatch "a" "f" .input "q" .output, .operandsIgnored "a" .map "x",
          .unknownDependency "b" "c"] ∧
      (compile ⟨"Document", .empty, [passedOver]⟩).2.warnings.map Event.text
        = ["Document has no <database> section",
          "Activity 'a': dependency 'a' is not declared before it, leaving it unset",
          "Activity 'a': dependency 'b' does not name any activity, leaving it unset",
          "Activity 'a': field 'f' is declared as input of relation 'q', " ++
            "which is an OUTPUT relation",
          "Activity 'a': MAP activities take no operands, ignoring 'x'",
          "Activity 'b': dependency 'c' does not name any activity, leaving it unset"] := by
  have hok : (compile ⟨"Document", .empty, [passedOver]⟩).1.toOption.isSome = true := by
    decide +kernel
  have hasked : documentWarnings ⟨"Document", .empty, [passedOver]⟩ passedOver
      = [.noDatabase, .lateDependency "a" "a", .unknownDependency "a" "b",
        .directionMismatch "a" "f" .input "q" .output, .operandsIgnored "a" .map "x",
        .unknownDependency "b" "c"] := by decide +kernel
  obtain ⟨doc, hdoc⟩ := exists_ok_of_isSome_toOption hok
  obtain ⟨e, hfirst, hwarnings, -⟩ := compile_warnings hdoc
  obtain rfl : passedOver = e := Option.some.inj hfirst
  rw [hwarnings, hasked]
  exact ⟨doc, hdoc, rfl, by decide +kernel⟩

end FlowGraph
