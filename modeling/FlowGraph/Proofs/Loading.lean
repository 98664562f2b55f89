import FlowGraph.Loading

/-!
# `FlowGraph.Proofs.Loading`: what is loaded from a file, and saved to one

Each task on files asks the file store once, and what comes of it is a function of the answer,
whatever the store is.

* `outcome_loadDocument`: a file that cannot be read, bytes that are no text and a text that is no
  document fail each in its own way, and only a document yields a root element (`rootIn?`).
* `outcome_loadWorkflow`, `outcome_loadReplicas`: a root element is compiled, and the records of
  both steps stand in order.
* `outcome_saveWorkflow`: the text of the workflow is written, in the format that the path tells.
-/

set_option autoImplicit false

namespace FlowGraph

/-- The root element of the document in a file, given what reading the file comes to. There is none
if the file cannot be read, is no text or holds no document. -/
def rootIn? (answer : Except FileFault ByteArray) : Option Element :=
  answer.toOption.bind fun bytes =>
    (String.fromUTF8? bytes).bind fun text => (Markup.readElement text).toOption

/-- What loading the document under a path comes to, given what reading the file comes to. -/
def documentOutcome (path : String) :
    Except FileFault ByteArray → Except LoadError Element × Log
  | .error fault => (.error (.io path fault), [])
  | .ok bytes =>
      match String.fromUTF8? bytes with
      | none => (.error (.io path .notText), [])
      | some text =>
          ((Markup.readElement text).mapError .xml, [.documentLoaded path bytes.size])

/-- The root element is what has been loaded. -/
theorem toOption_documentOutcome (path : String) (answer : Except FileFault ByteArray) :
    (documentOutcome path answer).1.toOption = rootIn? answer := by
  cases answer with
  | error fault => rfl
  | ok bytes =>
      rw [documentOutcome]
      show _ = (String.fromUTF8? bytes).bind fun text => (Markup.readElement text).toOption
      cases String.fromUTF8? bytes with
      | none => rfl
      | some text =>
          show ((Markup.readElement text).mapError LoadError.xml).toOption
            = (Markup.readElement text).toOption
          cases Markup.readElement text with
          | error e => rfl
          | ok root => rfl

/-- Where nothing can be loaded, the file or the text in it is at fault, and no description. -/
theorem documentOutcome_ne_compile (path : String) (answer : Except FileFault ByteArray)
    (err : CompileError) : (documentOutcome path answer).1 ≠ .error (.compile err) := by
  cases answer with
  | error fault => exact nofun
  | ok bytes =>
      rw [documentOutcome]
      cases String.fromUTF8? bytes with
      | none => exact nofun
      | some text =>
          show (Markup.readElement text).mapError LoadError.xml ≠ _
          cases Markup.readElement text with
          | error e => exact nofun
          | ok root => exact nofun

/-- What compiling the document under a path comes to, given what reading the file comes to. -/
def loadedOutcome {α : Type} (path : String) (f : Element → Except CompileError α × Log)
    (answer : Except FileFault ByteArray) : Except LoadError α × Log :=
  match documentOutcome path answer with
  | (.error e, log) => (.error e, log)
  | (.ok root, log) => ((f root).1.mapError .compile, log ++ (f root).2)

/-- Only a root element can be compiled. -/
theorem toOption_loadedOutcome {α : Type} (path : String)
    (f : Element → Except CompileError α × Log) (answer : Except FileFault ByteArray) :
    (loadedOutcome path f answer).1.toOption
      = (rootIn? answer).bind fun root => (f root).1.toOption := by
  rw [← toOption_documentOutcome path, loadedOutcome]
  rcases documentOutcome path answer with ⟨result, log⟩
  cases result with
  | error e => rfl
  | ok root =>
      show ((f root).1.mapError LoadError.compile).toOption = (f root).1.toOption
      cases (f root).1 with
      | error e => rfl
      | ok a => rfl

/-- What loading the workflow under a path comes to, given what reading the file comes to. -/
def workflowOutcome (path : String) (answer : Except FileFault ByteArray) :
    Except LoadError CompiledDocument × Log :=
  match loadedOutcome path compile answer with
  | (.error e, log) => (.error e, [.loadingWorkflow path] ++ log)
  | (.ok c, log) =>
      (.ok c, [.loadingWorkflow path] ++ log ++
        (c.workflow.lintRecord ++ c.workflow.lint.map .finding))

/-- A workflow is loaded as any document is that is compiled. -/
theorem fst_workflowOutcome (path : String) (answer : Except FileFault ByteArray) :
    (workflowOutcome path answer).1 = (loadedOutcome path compile answer).1 := by
  rw [workflowOutcome]
  rcases loadedOutcome path compile answer with ⟨result, log⟩
  cases result with
  | error e => rfl
  | ok c => rfl

/-- What saving a workflow under a path comes to, given what writing the file comes to. -/
def saveOutcome (path : String) : Except FileFault Unit → Except LoadError Unit × Log
  | .error fault => (.error (.io path fault), [])
  | .ok () => (.ok (), [.workflowSaved path])

/-! ### Tasks -/

section

variable {m : Type → Type} [Monad m] [LawfulMonad m]

/-- Adding records to a log cannot fail. -/
theorem Task.run_record (events log : Log) :
    (ExceptT.run (Task.record events : Task m Unit)).run log
      = pure (.ok (), log ++ events) := by
  show (pure ((), log ++ events) >>= fun p => pure (Except.ok p.1, p.2)) = _
  rw [pure_bind]

/-- A compilation adds its records, and its result is that of the task. -/
theorem Task.run_ofCompilation {α : Type} (x : Except CompileError α × Log) (log : Log) :
    (ExceptT.run (Task.ofCompilation x : Task m α)).run log
      = pure (x.1.mapError .compile, log ++ x.2) := by
  rw [Task.ofCompilation, ExceptT.run_bind, StateT.run_bind, Task.run_record, pure_bind]
  cases x.1 with
  | error e => rfl
  | ok a => rfl

/-- Loading a document asks the file store for one file, and the answer decides the rest. -/
theorem run_loadDocument [Storage m] (path : String) (log : Log) :
    (ExceptT.run (loadDocument path : Task m Element)).run log
      = (fun answer => ((documentOutcome path answer).1, log ++ (documentOutcome path answer).2))
          <$> Storage.read path := by
  rw [← bind_pure_comp, loadDocument, ExceptT.run_bind, StateT.run_bind]
  -- The answer passes through the two layers, log and failure, that tasks put around the store.
  show ((Storage.read path >>= fun a => pure (a, log)) >>= fun p =>
    pure (Except.ok p.1, p.2)) >>= _ = _
  simp only [bind_assoc, pure_bind]
  refine bind_congr (fun answer => ?_)
  cases answer with
  | error fault =>
      rw [documentOutcome, List.append_nil]
      rfl
  | ok bytes =>
      rw [documentOutcome]
      simp only
      cases String.fromUTF8? bytes with
      | none =>
          simp only [List.append_nil]
          rfl
      | some text =>
          simp only
          rw [ExceptT.run_bind, StateT.run_bind, Task.run_record, pure_bind]
          cases Markup.readElement text with
          | error e => rfl
          | ok root => rfl

/-- Loading a document reads the file once and goes by the answer. -/
theorem outcome_loadDocument [Storage m] (path : String) :
    (loadDocument path : Task m Element).outcome
      = documentOutcome path <$> Storage.read path := by
  rw [Task.outcome, run_loadDocument]
  simp only [List.nil_append]

/-- A document that has been loaded is compiled, and the records of both stand in order. -/
theorem run_loadDocument_bind [Storage m] {α : Type} (path : String)
    (f : Element → Except CompileError α × Log) (log : Log) :
    (ExceptT.run ((loadDocument path : Task m Element) >>= fun root =>
        Task.ofCompilation (f root))).run log
      = (fun answer => ((loadedOutcome path f answer).1, log ++ (loadedOutcome path f answer).2))
          <$> Storage.read path := by
  rw [ExceptT.run_bind, StateT.run_bind, run_loadDocument, bind_map_left, ← bind_pure_comp]
  refine bind_congr (fun answer => ?_)
  rw [loadedOutcome]
  rcases documentOutcome path answer with ⟨result, log'⟩
  cases result with
  | error e => rfl
  | ok root =>
      simp only
      rw [Task.run_ofCompilation, List.append_assoc]

/-- Loading replicas reads the file once and goes by the answer. -/
theorem outcome_loadReplicas [Storage m] (path : String) :
    (loadReplicas path : Task m (List Replica)).outcome
      = loadedOutcome path Replica.ofDocument <$> Storage.read path := by
  rw [Task.outcome, loadReplicas, run_loadDocument_bind]
  simp only [List.nil_append]

/-- Loading a workflow reads the file once and goes by the answer. -/
theorem outcome_loadWorkflow [Storage m] (path : String) :
    (loadWorkflow path : Task m CompiledDocument).outcome
      = workflowOutcome path <$> Storage.read path := by
  rw [Task.outcome, loadWorkflow, ExceptT.run_bind, StateT.run_bind, Task.run_record, pure_bind]
  simp only
  -- The file is read first; all that follows is a function of the answer.
  rw [← bind_assoc, ExceptT.run_bind, StateT.run_bind, run_loadDocument_bind, bind_map_left,
    ← bind_pure_comp]
  refine bind_congr (fun answer => ?_)
  rw [workflowOutcome]
  rcases loadedOutcome path compile answer with ⟨result, log⟩
  cases result with
  | error e => rfl
  | ok c =>
      simp only
      rw [ExceptT.run_bind, StateT.run_bind, Task.run_record, pure_bind]
      rfl

/-- Saving a workflow writes the file once, in the form that the path asks for. -/
theorem outcome_saveWorkflow [Storage m] (w : Workflow) (path : String) :
    (saveWorkflow w path : Task m Unit).outcome
      = saveOutcome path <$> Storage.write path (w.textFor path) := by
  rw [← bind_pure_comp, saveWorkflow, Task.outcome, ExceptT.run_bind, StateT.run_bind]
  show ((Storage.write path (w.textFor path) >>= fun a => pure (a, ([] : Log))) >>= fun p =>
    pure (Except.ok p.1, p.2)) >>= _ = _
  simp only [bind_assoc, pure_bind]
  refine bind_congr (fun answer => ?_)
  cases answer with
  | error fault => rfl
  | ok done =>
      simp only
      rw [Task.run_record]
      rfl

end

end FlowGraph
