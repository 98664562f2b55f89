import FlowGraph.Proofs.Compile.Document
import FlowGraph.Proofs.Compile.Logging

/-!
# `FlowGraph.Proofs.Compile.Prefixes`: later declarations do not influence earlier ones

A document is cut off behind the first declarations of its workflow
(`Element.firstDeclarations`), and both are compiled. The walk over all declarations begins as
the walk over the first ones, with the same log but for the record of how many there are. So a
fault among the first ones is the fault of the whole document, and where there is none the whole
document only adds: activities behind those of the first declarations
(`CompiledFrom.entries_take`), and warnings behind theirs (`OnlyAppends.keeps_log`).
`compile_firstDeclarations` puts this together.
-/

set_option autoImplicit false

namespace FlowGraph

/-- The warnings in a log. -/
def Log.warnings (log : Log) : Log := log.filter (fun e => decide (e.level = .warn))

/-- The element with no more than its first `k` children. -/
def Element.firstChildren (e : Element) (k : Nat) : Element :=
  { e with children := e.children.take k }

/-- The document with no more than the first `k` declarations of its workflow. -/
def Element.firstDeclarations (root : Element) (k : Nat) : Element :=
  { root with
    children := root.children.modify (root.children.findIdx (fun c => c.name == workflowElement))
      (fun e => e.firstChildren k) }

/-! ### Documents that are cut off -/

section Modify

variable {α : Type} {p q : α → Bool} {f : α → α}

/-- Changing the first item that satisfies `p`, without changing that it does, changes what is
found. -/
theorem find?_modify_findIdx (hf : ∀ a, p (f a) = p a) (l : List α) :
    (l.modify (l.findIdx p) f).find? p = (l.find? p).map f := by
  induction l with
  | nil => rfl
  | cons a l ih =>
      cases hp : p a with
      | true => simp [List.findIdx_cons, hp, hf]
      | false => simp [List.findIdx_cons, hp, ih]

/-- It does not change what is found by a test that such items do not pass. -/
theorem find?_modify_findIdx_of_disjoint (hq : ∀ a, p a = true → q a = false ∧ q (f a) = false)
    (l : List α) : (l.modify (l.findIdx p) f).find? q = l.find? q := by
  induction l with
  | nil => rfl
  | cons a l ih =>
      cases hp : p a with
      | true =>
          obtain ⟨hqa, hqf⟩ := hq a hp
          simp [List.findIdx_cons, hp, hqa, hqf]
      | false => simp [List.findIdx_cons, hp, List.find?_cons, ih]

end Modify

namespace Element

/-- The workflow of a document that is cut off is cut off. -/
theorem firstChild?_firstDeclarations (root : Element) (k : Nat) :
    (root.firstDeclarations k).firstChild? workflowElement
      = (root.firstChild? workflowElement).map (fun e => e.firstChildren k) := by
  have hname : ∀ c : Element, ((c.firstChildren k).name == workflowElement)
      = (c.name == workflowElement) := fun _ => rfl
  exact find?_modify_findIdx hname root.children

/-- The database of a document that is cut off is that of the document. -/
theorem connection?_firstDeclarations (root : Element) (k : Nat) :
    (root.firstDeclarations k).connection? = root.connection? := by
  have hdisjoint : ∀ c : Element, (c.name == workflowElement) = true →
      (c.name == Connection.elementName) = false ∧
        ((c.firstChildren k).name == Connection.elementName) = false := by
    intro c hc
    have hother : (c.name == Connection.elementName) = false := by
      rw [eq_of_beq hc]
      decide
    exact ⟨hother, hother⟩
  have hfind : (root.firstDeclarations k).firstChild? Connection.elementName
      = root.firstChild? Connection.elementName :=
    find?_modify_findIdx_of_disjoint hdisjoint root.children
  rw [connection?, connection?, hfind]

end Element

/-! ### The log of a document -/

/-- A step leaves the log that it finds in front of what it adds. -/
theorem CompileM.OnlyAppends.keeps_log {α : Type} {x : CompileM α}
    (h : CompileM.OnlyAppends x) (c : Compilation) : c.log <+: (x.run c).2.log := by
  have hrun := h c.log { c with log := [] }
  have hstart : Compilation.behind c.log { c with log := [] } = c := by simp [Compilation.behind]
  rw [hstart] at hrun
  rw [hrun]
  exact List.prefix_append _ _

/-- A log that goes on keeps its warnings in front. -/
theorem Log.warnings_mono {l m : Log} (h : l <+: m) : l.warnings <+: m.warnings :=
  h.filter _

/-- The warning about a document as such. -/
def Element.databaseWarning (root : Element) : Log :=
  if root.connection?.isNone then [.noDatabase] else []

/-- The walk over the declarations of a workflow, with a log of its own. -/
def runDeclarations (tag : String) (e : Element) (es : List Element) :
    Except CompileError Unit × Compilation :=
  (compileActivities es).run ⟨.start tag (e.attribute? "description"), []⟩

section Compile

variable {root e : Element} {tag : String}

/-- The number of declarations is recorded in front of the walk, and no step looks at it. -/
theorem run_start (tag : String) (e : Element) (es : List Element)
    (database : Option Connection) :
    (compileActivities es).run (.start tag e database)
      = ((runDeclarations tag e es).1, (runDeclarations tag e es).2.behind
          (Compilation.start tag e database).log) := by
  have hrun := onlyAppends_compileActivities es (Compilation.start tag e database).log
    ⟨.start tag (e.attribute? "description"), []⟩
  have hstart : Compilation.behind (Compilation.start tag e database).log
      ⟨.start tag (e.attribute? "description"), []⟩ = Compilation.start tag e database := by
    simp [Compilation.behind, Compilation.start]
  rw [hstart] at hrun
  exact hrun

/-- A document with a tagged workflow compiles as the walk over its declarations goes, and all
other warnings are those of the walk. -/
theorem compile_eq_runDeclarations (hfirst : root.firstChild? workflowElement = some e)
    (htag : e.attribute? "tag" = some tag) :
    (compile root).1 = (runDeclarations tag e e.children).1.map (fun _ =>
        ⟨(runDeclarations tag e e.children).2.workflow, root.connection?⟩) ∧
      (compile root).2.warnings
        = root.databaseWarning ++ (runDeclarations tag e e.children).2.log.warnings := by
  have hopening : (Compilation.start tag e root.connection?).log.warnings
      = root.databaseWarning := by
    rw [Element.databaseWarning, Compilation.start]
    cases root.connection? <;> rfl
  have hrun := run_start tag e e.children root.connection?
  rw [Element.connection?] at hrun
  rw [compile, Element.requiredChild, hfirst]
  simp only [Element.requiredAttribute_eq_ok_iff.2 htag, hrun]
  rw [← Element.connection?, ← hopening]
  cases hresult : (runDeclarations tag e e.children).1 with
  | error err => exact ⟨rfl, List.filter_append ..⟩
  | ok u =>
      refine ⟨rfl, ?_⟩
      -- The last record is no warning.
      show Log.warnings (_ ++ [_]) = _
      rw [Log.warnings, List.filter_append, Compilation.behind, List.filter_append]
      exact List.append_nil _

end Compile

/-! ### Fewer declarations -/

/-- Two lists of declarations are compiled one after the other. -/
theorem compileActivities_append (es fs : List Element) :
    compileActivities (es ++ fs) = compileActivities es >>= fun _ => compileActivities fs :=
  List.forM_append ..

/-- The activities of the first declarations are the first activities. -/
theorem CompiledFrom.entries_take {ds : List Element} {w w' : Workflow} {k : Nat}
    (h : CompiledFrom ds w) (h' : CompiledFrom (ds.take k) w') :
    w'.activities.entries = w.activities.entries.take k := by
  apply List.ext_getElem?
  intro i
  rw [List.getElem?_take]
  cases hd : (ds.take k)[i]? with
  | none =>
      -- There is no such declaration, because there are not so many or because of the cut.
      have hsize : w'.activities.entries.length = (ds.take k).length := h'.size
      rw [List.getElem?_eq_none (hsize ▸ List.getElem?_eq_none_iff.1 hd)]
      split
      · next hlt =>
          rw [List.getElem?_take, if_pos hlt] at hd
          have hsize : w.activities.entries.length = ds.length := h.size
          exact (List.getElem?_eq_none (hsize ▸ List.getElem?_eq_none_iff.1 hd)).symm
      · rfl
  | some d =>
      obtain ⟨shell, hshell, hentry⟩ := h'.entry i d hd
      rw [List.getElem?_take] at hd
      split at hd
      · next hlt =>
          -- The declarations before it are the same in both documents.
          obtain ⟨shell', hshell', hentry'⟩ := h.entry i d hd
          rw [hshell, Except.ok.injEq] at hshell'
          rw [List.take_take, Nat.min_eq_left (Nat.le_of_lt hlt)] at hentry
          rw [hentry, if_pos hlt, hentry', hshell']
      · cases hd

section Cut

variable {e : Element} {tag : String} {k : Nat} {c : Compilation}

/-- The walk over all declarations goes on where the walk over the first ones ends. -/
theorem runDeclarations_of_take_ok (h : runDeclarations tag e (e.children.take k) = (.ok (), c)) :
    runDeclarations tag e e.children = (compileActivities (e.children.drop k)).run c := by
  have hwalk := CompileM.run_bind_of_ok (f := fun _ => compileActivities (e.children.drop k)) h
  rwa [← compileActivities_append, List.take_append_drop] at hwalk

/-- It ends where they end, if they end with a fault. -/
theorem runDeclarations_of_take_error {err : CompileError}
    (h : runDeclarations tag e (e.children.take k) = (.error err, c)) :
    runDeclarations tag e e.children = (.error err, c) := by
  have hwalk := CompileM.run_bind_of_error
    (f := fun _ => compileActivities (e.children.drop k)) h
  rwa [← compileActivities_append, List.take_append_drop] at hwalk

end Cut

section Document

variable {root e : Element} {tag : String}

/-- What a document with a tagged workflow comes to when it is cut off. -/
theorem compile_firstDeclarations_eq (hfirst : root.firstChild? workflowElement = some e)
    (htag : e.attribute? "tag" = some tag) (k : Nat) :
    (compile (root.firstDeclarations k)).1
        = (runDeclarations tag e (e.children.take k)).1.map (fun _ =>
            ⟨(runDeclarations tag e (e.children.take k)).2.workflow, root.connection?⟩) ∧
      (compile (root.firstDeclarations k)).2.warnings
        = root.databaseWarning ++ (runDeclarations tag e (e.children.take k)).2.log.warnings := by
  have hfirst' : (root.firstDeclarations k).firstChild? workflowElement
      = some (e.firstChildren k) := by
    rw [Element.firstChild?_firstDeclarations, hfirst, Option.map_some]
  have heq := compile_eq_runDeclarations hfirst' (e := e.firstChildren k) htag
  rw [Element.databaseWarning, Element.connection?_firstDeclarations] at heq
  exact heq

/-- A document without a tagged workflow is not changed by cutting it off. -/
theorem compile_firstDeclarations_of_none
    (h : (root.firstChild? workflowElement).bind (·.attribute? "tag") = none) (k : Nat) :
    compile (root.firstDeclarations k) = compile root ∧ ∃ err, (compile root).1 = .error err := by
  have hfirst := root.firstChild?_firstDeclarations k
  rw [compile, compile, Element.requiredChild, Element.requiredChild, hfirst]
  cases hworkflow : root.firstChild? workflowElement with
  | none => exact ⟨rfl, _, rfl⟩
  | some e =>
      rw [hworkflow, Option.bind_some] at h
      have hmissing : (e.firstChildren k).attribute? "tag" = none := h
      simp only [Option.map_some, Element.requiredAttribute_of_none h,
        Element.requiredAttribute_of_none hmissing]
      exact ⟨rfl, _, rfl⟩

/-- Where a document compiles with its later declarations and without them, its first activities
are those of the first declarations. -/
theorem entries_take_of_compile {k : Nat} {doc doc' : CompiledDocument}
    (hdoc : (compile root).1 = .ok doc)
    (hdoc' : (compile (root.firstDeclarations k)).1 = .ok doc') :
    doc'.workflow.activities.entries = doc.workflow.activities.entries.take k := by
  obtain ⟨f, hfirst, hdescribes⟩ := describes_of_compile hdoc
  obtain ⟨f', hfirst', hdescribes'⟩ := describes_of_compile hdoc'
  rw [Element.firstChild?_firstDeclarations, hfirst, Option.map_some, Option.some.injEq] at hfirst'
  subst hfirst'
  exact hdescribes.compiled.entries_take hdescribes'.compiled

end Document

/-- A document compiles only if it does without its later declarations, and its first activities
and warnings are then those of the first declarations. A document that is refused without its
later declarations is refused with them, for the same fault and with the same warnings. -/
theorem compile_firstDeclarations (root : Element) (k : Nat) :
    (∀ doc, (compile root).1 = .ok doc →
      ∃ doc', (compile (root.firstDeclarations k)).1 = .ok doc' ∧
        doc'.workflow.activities.entries = doc.workflow.activities.entries.take k ∧
        (compile (root.firstDeclarations k)).2.warnings <+: (compile root).2.warnings) ∧
    (∀ err, (compile (root.firstDeclarations k)).1 = .error err →
      (compile root).1 = .error err ∧
        (compile root).2.warnings = (compile (root.firstDeclarations k)).2.warnings) := by
  cases htagged : (root.firstChild? workflowElement).bind (·.attribute? "tag") with
  | none =>
      obtain ⟨heq, err, herr⟩ := compile_firstDeclarations_of_none htagged k
      refine ⟨fun doc hdoc => ?_, fun err' herr' => ?_⟩
      · rw [herr] at hdoc
        cases hdoc
      · rw [heq] at herr' ⊢
        exact ⟨herr', rfl⟩
  | some tag =>
      obtain ⟨e, hfirst, htag⟩ := Option.bind_eq_some_iff.1 htagged
      obtain ⟨hall, hallWarnings⟩ := compile_eq_runDeclarations hfirst htag
      obtain ⟨hcut, hcutWarnings⟩ := compile_firstDeclarations_eq hfirst htag k
      -- The walk over the first declarations decides: it ends with a fault, or goes on.
      rcases hrun : runDeclarations tag e (e.children.take k) with ⟨result, c⟩
      rw [hrun] at hcut hcutWarnings
      cases result with
      | error err =>
          rw [runDeclarations_of_take_error hrun] at hall hallWarnings
          refine ⟨fun doc hdoc => ?_, fun err' herr' => ?_⟩
          · rw [hall] at hdoc
            cases hdoc
          · rw [hcut] at herr'
            exact ⟨hall.trans herr', hallWarnings.trans hcutWarnings.symm⟩
      | ok u =>
          refine ⟨fun doc hdoc => ⟨_, hcut, ?_, ?_⟩, fun err' herr' => ?_⟩
          · exact entries_take_of_compile hdoc hcut
          · rw [hallWarnings, hcutWarnings, runDeclarations_of_take_ok hrun,
              List.prefix_append_right_inj]
            exact Log.warnings_mono ((onlyAppends_compileActivities _).keeps_log c)
          · rw [hcut] at herr'
            cases herr'

/-- Four declarations. The first asks for a dependency that is declared later, and the third
repeats its tag. -/
def repeatedTag : Element :=
  ⟨"Document", .empty, [⟨"Workflow", .ofList [("tag", "w")], [
    ⟨"Activity", .ofList [("tag", "a"), ("type", "map")], [
      ⟨"Relation", .ofList [("name", "r"), ("reltype", "input"), ("dependency", "b")], []⟩]⟩,
    ⟨"Activity", .ofList [("tag", "b"), ("type", "map"), ("operand", "x")], []⟩,
    ⟨"Activity", .ofList [("tag", "a"), ("type", "map")], []⟩,
    ⟨"Activity", .ofList [("tag", "c"), ("type", "map")], []⟩]⟩]⟩

/-- The first two declarations compile, and so does the first alone. From the third on, the
fault is that of the third. -/
theorem compile_firstDeclarations_repeatedTag :
    (∃ doc, (compile (repeatedTag.firstDeclarations 2)).1 = .ok doc ∧
      ∃ doc', (compile ((repeatedTag.firstDeclarations 2).firstDeclarations 1)).1 = .ok doc' ∧
        doc'.workflow.activities.entries = doc.workflow.activities.entries.take 1 ∧
        (compile ((repeatedTag.firstDeclarations 2).firstDeclarations 1)).2.warnings
          <+: (compile (repeatedTag.firstDeclarations 2)).2.warnings) ∧
    (compile (repeatedTag.firstDeclarations 3)).1 = .error (.duplicateActivity "a") ∧
      (compile repeatedTag).1 = .error (.duplicateActivity "a") ∧
      (compile repeatedTag).2.warnings
        = (compile (repeatedTag.firstDeclarations 3)).2.warnings := by
  have hok : (compile (repeatedTag.firstDeclarations 2)).1.toOption.isSome = true := by
    decide +kernel
  have herror : (compile (repeatedTag.firstDeclarations 3)).1
      = .error (.duplicateActivity "a") := by decide +kernel
  obtain ⟨doc, hdoc⟩ := exists_ok_of_isSome_toOption hok
  exact ⟨⟨doc, hdoc, (compile_firstDeclarations (repeatedTag.firstDeclarations 2) 1).1 doc hdoc⟩,
    herror, (compile_firstDeclarations repeatedTag 3).2 _ herror⟩

end FlowGraph
