import FlowGraph.DocumentReader
import FlowGraph.Proofs.Compile.Document
import FlowGraph.Proofs.Loading
import FlowGraph.Storage.FileTree

/-!
# `FlowGraph.Proofs.DocumentReader`: what a reader remembers of its history

A reader is asked to compile documents, some given as elements and some in files. A request reaches
the compiler exactly if it comes with a root element (`Request.document?`): a file that cannot be
read, or holds no document, stops before that.

* `answer_of_document?`, `answer_of_document?_eq_none`: what one request comes to, and what it
  leaves of the reader.
* `database_after`: behind a run of requests, the reader remembers what the last document that
  reached the compiler left, and a document that was refused leaves nothing.
* `databaseAttribute_after`: this, told by the attributes of the remembered database.

The files are any store of files, and every request finds them in any state.
-/

set_option autoImplicit false

namespace FlowGraph

/-- The database of a compiled description is the first section for one in its document. -/
theorem database_of_compile {root : Element} {doc : CompiledDocument}
    (h : (compile root).1 = .ok doc) : doc.database = root.connection? := by
  rw [compile] at h
  split at h
  · cases h
  · split at h
    · cases h
    · dsimp only at h
      split at h
      · cases h
      · cases h
        rfl

namespace DocumentReader

/-! ### One request -/

/-- What is remembered of a document: its database, which may have no attributes, unless the
document is refused. -/
def remembered? (root : Element) : Option Connection :=
  (FlowGraph.compile root).1.toOption.map (fun _ => root.connection?.getD .empty)

/-- A reader compiles as if it were not there, and then remembers the new document alone. -/
theorem compile_eq (r : DocumentReader) (root : Element) :
    r.compile root = (((FlowGraph.compile root).1.map CompiledDocument.workflow,
      (FlowGraph.compile root).2), ⟨remembered? root⟩) := by
  rw [compile, remembered?]
  rcases h : FlowGraph.compile root with ⟨result, log⟩
  cases result with
  | error e => rfl
  | ok doc =>
      rw [← database_of_compile (congrArg Prod.fst h)]
      rfl

/-- An attribute of a remembered document is that of its first section for a database. -/
theorem databaseAttribute_remembered? (root : Element) (name : String) :
    (⟨remembered? root⟩ : DocumentReader).databaseAttribute name =
      match (FlowGraph.compile root).1 with
      | .error _ => .error .notCompiled
      | .ok _ => .ok ((root.firstChild? "database").bind (·.attribute? name)) := by
  have hattribute : (root.connection?.getD .empty).attribute? name
      = (root.firstChild? "database").bind (·.attribute? name) := by
    show (((root.firstChild? "database").map Connection.ofElement).getD .empty).attribute? name = _
    cases root.firstChild? "database" with
    | none => rfl
    | some database => rfl
  rw [databaseAttribute, remembered?]
  cases (FlowGraph.compile root).1 with
  | error e => rfl
  | ok doc => exact congrArg Except.ok hattribute

/-- What reading a workflow comes to, given what reading its file comes to. -/
def reading (r : DocumentReader) (path : String) (found : Except FileFault ByteArray) :
    (Except LoadError Workflow × Log) × DocumentReader :=
  match documentOutcome path found with
  | (.error e, log) => ((.error e, .readingWorkflow path :: log), r)
  | (.ok root, log) =>
      let ((result, log'), r) := r.compile root
      ((result.mapError .compile, .readingWorkflow path :: log ++ log'), r)

/-- Reading a workflow asks the file store for one file, and the answer decides the rest. -/
theorem readWorkflow_eq {m : Type → Type} [Monad m] [LawfulMonad m] [Storage m]
    (r : DocumentReader) (path : String) :
    (r.readWorkflow path : m _) = r.reading path <$> Storage.read path := by
  rw [readWorkflow, outcome_loadDocument, bind_map_left, ← bind_pure_comp]
  refine bind_congr (fun found => ?_)
  rw [reading]
  rcases documentOutcome path found with ⟨result, log⟩
  cases result with
  | error e => rfl
  | ok root => rfl

variable {σ : Type}

/-- What is asked of a reader. A file is looked for among the files that there are at the time of
the request. Others may change them before the next one. -/
inductive Request (σ : Type) where
  | compile (root : Element)
  | readWorkflow (path : String) (files : σ)

variable [Storage (StateM σ)]

/-- The root element that a request has for the compiler, if it comes as far. -/
def Request.document? : Request σ → Option Element
  | .compile root => some root
  | .readWorkflow path files => rootIn? ((Storage.read path : StateM σ _).run files).1

/-- What a reader answers to a request, and what becomes of the reader. -/
def answer (r : DocumentReader) : Request σ → Except LoadError Workflow × DocumentReader
  | .compile root => ((r.compile root).1.1.mapError .compile, (r.compile root).2)
  | .readWorkflow path files =>
      let read := ((r.readWorkflow path : StateM σ _).run files).1
      (read.1.1, read.2)

/-- A document that reaches the compiler is compiled, and takes the place of the one that was
remembered, also where it is refused. -/
theorem answer_of_document? (r : DocumentReader) {q : Request σ} {root : Element}
    (h : q.document? = some root) :
    r.answer q = (((FlowGraph.compile root).1.map CompiledDocument.workflow).mapError .compile,
      ⟨remembered? root⟩) := by
  cases q with
  | compile root' =>
      cases h
      rw [answer, compile_eq]
  | readWorkflow path files =>
      rw [answer, readWorkflow_eq, StateT.run_map]
      have hloaded := except_toOption_eq_some_iff.1
        ((toOption_documentOutcome path _).trans h)
      show ((r.reading path ((Storage.read path : StateM σ _).run files).1).1.1,
        (r.reading path ((Storage.read path : StateM σ _).run files).1).2) = _
      rw [reading]
      rcases hout : documentOutcome path ((Storage.read path : StateM σ _).run files).1
        with ⟨result, log⟩
      rw [hout] at hloaded
      subst hloaded
      simp only [compile_eq]

/-- A request that does not reach the compiler fails, through no fault of a description, and the
reader does not notice it. -/
theorem answer_of_document?_eq_none (r : DocumentReader) {q : Request σ}
    (h : q.document? = none) :
    ∃ e, r.answer q = (.error e, r) ∧ ∀ err, e ≠ .compile err := by
  cases q with
  | compile root' => cases h
  | readWorkflow path files =>
      rw [answer, readWorkflow_eq, StateT.run_map]
      have hloaded := (toOption_documentOutcome path _).trans h
      -- Without a document there is nothing to compile, so the failure is one of reading.
      have hcause := documentOutcome_ne_compile path ((Storage.read path : StateM σ _).run files).1
      show ∃ e, ((r.reading path ((Storage.read path : StateM σ _).run files).1).1.1,
        (r.reading path ((Storage.read path : StateM σ _).run files).1).2) = _ ∧ _
      rw [reading]
      rcases hout : documentOutcome path ((Storage.read path : StateM σ _).run files).1
        with ⟨result, log⟩
      rw [hout] at hloaded hcause
      cases result with
      | error e => exact ⟨e, rfl, fun err herr => hcause err (congrArg Except.error herr)⟩
      | ok root => cases hloaded

/-! ### A run of requests -/

/-- What becomes of a reader in a run of requests. -/
def after (r : DocumentReader) (requests : List (Request σ)) : DocumentReader :=
  requests.foldl (fun r q => (r.answer q).2) r

/-- One more request is answered by the reader that the others leave. -/
theorem after_concat (r : DocumentReader) (requests : List (Request σ)) (q : Request σ) :
    r.after (requests ++ [q]) = ((r.after requests).answer q).2 := List.foldl_append

/-- The root element of the last request that had one. -/
def Request.lastDocument? (requests : List (Request σ)) : Option Element :=
  (requests.filterMap document?).getLast?

/-- The last document is that of the last request that has one. -/
theorem Request.lastDocument?_concat (requests : List (Request σ)) (q : Request σ) :
    lastDocument? (requests ++ [q]) = q.document?.or (lastDocument? requests) := by
  rw [lastDocument?, List.filterMap_append]
  cases h : q.document? with
  | none => simp [h, lastDocument?]
  | some root => simp [h]

/-- Behind a run of requests, the last document that reached the compiler is remembered, and
nothing if there was none. -/
theorem database_after (requests : List (Request σ)) :
    (start.after requests).database = (Request.lastDocument? requests).bind remembered? := by
  induction requests using List.reverseRecOn with
  | nil => rfl
  | append_singleton requests q ih =>
      rw [after_concat, Request.lastDocument?_concat]
      cases h : q.document? with
      | none =>
          obtain ⟨e, he, -⟩ := answer_of_document?_eq_none (start.after requests) h
          rw [he, Option.none_or]
          exact ih
      | some root =>
          rw [answer_of_document? _ h, Option.some_or]
          rfl

/-- Behind a run of requests, an attribute of the database can be asked for exactly if some
document has reached the compiler and the last that did was not refused. The answer then is what
its first section for a database says, also where there is no such section.

In the run, a document that reached the compiler was answered with the workflow that it compiles
to, and a request that did not reach it failed and left the reader as it was. -/
theorem databaseAttribute_after (requests : List (Request σ)) :
    (∀ name, (start.after requests).databaseAttribute name =
      match Request.lastDocument? requests with
      | none => .error .notCompiled
      | some root =>
          match (FlowGraph.compile root).1 with
          | .error _ => .error .notCompiled
          | .ok _ => .ok ((root.firstChild? "database").bind (·.attribute? name))) ∧
    AllBehind (fun before q =>
      match q.document? with
      | none =>
          (∃ e, ((start.after before).answer q).1 = .error e ∧ ∀ err, e ≠ .compile err) ∧
            ((start.after before).answer q).2 = start.after before
      | some root =>
          ((start.after before).answer q).1
            = ((FlowGraph.compile root).1.map CompiledDocument.workflow).mapError .compile)
      requests := by
  constructor
  · intro name
    rw [databaseAttribute, database_after]
    cases Request.lastDocument? requests with
    | none => rfl
    | some root => exact databaseAttribute_remembered? root name
  · intro before q after _
    cases h : q.document? with
    | none =>
        obtain ⟨e, he, hcause⟩ := answer_of_document?_eq_none (start.after before) h
        rw [he]
        exact ⟨⟨e, rfl, hcause⟩, rfl⟩
    | some root => rw [answer_of_document? _ h]

/-- A document with a database is compiled from a file, and then nothing more can be read: a file is
gone, and the other has been cut off. -/
def failedReads : List (Request FileTree) :=
  let text := "<Setup><database server='db'/><Workflow tag='w'/></Setup>"
  [.readWorkflow "flow.xml" ⟨.ofList [(["flow.xml"], text.toUTF8)]⟩,
    .readWorkflow "flow.xml" ⟨.empty⟩,
    .readWorkflow "flow.xml" ⟨.ofList [(["flow.xml"], "<Setup>".toUTF8)]⟩]

/-- A document without a section for its database. -/
def unconnected : Element := ⟨"Setup", .empty, [⟨"Workflow", .ofList [("tag", "w")], []⟩]⟩

/-- Reads that do not come to a document leave the connection as it is. A document without a
database takes it away, and one that does not compile leaves nothing compiled. -/
theorem databaseAttribute_after_failedReads :
    (start.after failedReads).databaseAttribute "server" = .ok (some "db") ∧
      (start.after (failedReads ++ [.compile unconnected])).databaseAttribute "server" = .ok none ∧
      (start.after (failedReads ++ [.compile (.leaf "Setup")])).databaseAttribute "server"
        = .error .notCompiled := by
  refine ⟨((databaseAttribute_after _).1 "server").trans ?_,
    ((databaseAttribute_after _).1 "server").trans ?_,
    ((databaseAttribute_after _).1 "server").trans ?_⟩
  · have hlast : Request.lastDocument? failedReads = some ⟨"Setup", .empty, [
        ⟨"database", .ofList [("server", "db")], []⟩,
        ⟨"Workflow", .ofList [("tag", "w")], []⟩]⟩ := by decide +kernel
    rw [hlast]
    rfl
  · rw [Request.lastDocument?_concat]
    rfl
  · rw [Request.lastDocument?_concat]
    rfl

end DocumentReader

end FlowGraph
