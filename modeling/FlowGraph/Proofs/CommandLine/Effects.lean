import FlowGraph.CommandLine.Run
import FlowGraph.Proofs.Loading
import FlowGraph.Proofs.Storage.Laws
import FlowGraph.Proofs.Storage.Path

/-!
# `FlowGraph.Proofs.CommandLine.Effects`: how a run ends and what it leaves in the files

A run that compiles goes through three steps: loading the workflow, saving it under the path of
`--emit` and listing the replicas in the file of `--sites`. The store of files is any store that
keeps its laws (`LawfulStorage`), so the three paths may lead to one file.

* `listSites` and `emitWorkflow` are followed step by step. Of each it is shown which store it
  leaves, and that its report `Tells` whether everything that it was asked for has been done.
* `compileFile_leaves` puts them together: no workflow leaves the store as it was, and a workflow
  leaves what saving it leaves. Whether the replicas can be listed does not matter for the store.
* `run_of_accepted` says how a run with accepted arguments ends, which files it leaves alone and
  which text it leaves under the path of `--emit`.
-/

set_option autoImplicit false

namespace FlowGraph

/-- The description in a file, compiled, given what reading the file comes to. -/
def compiledIn? (answer : Except FileFault ByteArray) : Option CompiledDocument :=
  (rootIn? answer).bind fun root => (compile root).1.toOption

/-- The replicas that a file lists, given what reading the file comes to. -/
def replicasIn? (answer : Except FileFault ByteArray) : Option (List Replica) :=
  (rootIn? answer).bind fun root => (Replica.ofDocument root).1.toOption

instance (path : String) : Decidable (Path.NamesYaml path) := decidable_of_iff _ Path.isYaml_iff

/-- A workflow is written as YAML where the path names it, else as JSON. -/
theorem Workflow.textFor_eq (w : Workflow) (path : String) :
    w.textFor path = if Path.NamesYaml path then w.toYaml else w.toJson := by
  rw [Workflow.textFor]
  by_cases h : Path.NamesYaml path
  · rw [if_pos h, if_pos (Path.isYaml_iff.2 h)]
  · rw [if_neg h, if_neg (mt Path.isYaml_iff.1 h)]

namespace CommandLine

/-! ### Reports -/

/-- The exit status is 0 if something has been done and 1 if not. -/
def Report.Tells (r : Report) (done : Prop) : Prop := r.exit = 0 ∧ done ∨ r.exit = 1 ∧ ¬ done

/-- A report tells one thing when it tells the other, if the two are the same. -/
theorem Report.Tells.congr {r : Report} {done done' : Prop} (h : r.Tells done)
    (hiff : done ↔ done') : r.Tells done' := by
  rwa [← propext hiff]

/-- The exit status is zero exactly when what was asked is done. -/
theorem Report.Tells.exit_eq_zero_iff {r : Report} {done : Prop} (h : r.Tells done) :
    r.exit = 0 ↔ done := by
  rcases h with ⟨hexit, hdone⟩ | ⟨hexit, hnot⟩
  · exact iff_of_true hexit hdone
  · exact iff_of_false (by rw [hexit]; decide) hnot

/-- There are two exit statuses. -/
theorem Report.Tells.exit_eq_zero_or_one {r : Report} {done : Prop} (h : r.Tells done) :
    r.exit = 0 ∨ r.exit = 1 :=
  h.imp And.left And.left

/-- A report of success tells what is done. -/
theorem Progress.succeed_tells {done : Prop} (p : Progress) (verbose : Bool) (h : done) :
    (p.succeed verbose).Tells done := .inl ⟨rfl, h⟩

/-- A report of failure tells what is not done. -/
theorem Progress.fail_tells {done : Prop} (p : Progress) (verbose : Bool) (reason : String)
    (h : ¬ done) : (p.fail verbose reason).Tells done := .inr ⟨rfl, h⟩

section

variable {σ : Type} [Storage (StateM σ)]

/-! ### What is asked for -/

/-- The replicas can be listed if that is asked for. -/
def Listable (o : Options) (s : σ) : Prop :=
  ∀ path, o.sites = some path → ∃ replicas, replicasIn? (readAt s path) = some replicas

/-- The workflow can be written if that is asked for. -/
def Writable (o : Options) (w : Workflow) (s : σ) : Prop :=
  ∀ path, o.emit = some path → (writeAt s path (w.textFor path)).1 = .ok ()

/-- The store behind the writing of a workflow, if that is asked for. -/
def afterEmit (o : Options) (w : Workflow) (s : σ) : σ :=
  match o.emit with
  | none => s
  | some path => (writeAt s path (w.textFor path)).2

/-! ### The steps of a run -/

/-- A step that asks for one text to be written leaves the store behind the writing. -/
theorem run_map_write {α : Type} (f : Except FileFault Unit → α) (path text : String) (s : σ) :
    (f <$> Storage.write path text : StateM σ α).run s
      = (f (writeAt s path text).1, (writeAt s path text).2) :=
  rfl

open LawfulStorage

variable [LawfulStorage σ]

/-- A step that asks for one file leaves the store as it is. -/
theorem run_map_read {α : Type} (f : Except FileFault ByteArray → α) (path : String) (s : σ) :
    (f <$> Storage.read path : StateM σ α).run s = (f (readAt s path), s) :=
  Prod.ext rfl (read_snd s path)

/-- Only the file under the path of `--emit` changes when a workflow is written. -/
theorem exists_target_of_afterEmit {o : Options} {w : Workflow} {s : σ} {f : File σ}
    (h : content (afterEmit o w s) f ≠ content s f) :
    ∃ out, o.emit = some out ∧ target? s out = some f := by
  cases hemit : o.emit with
  | none =>
      rw [afterEmit, hemit] at h
      exact absurd rfl h
  | some out =>
      rw [afterEmit, hemit] at h
      refine ⟨out, rfl, ?_⟩
      by_contra hne
      exact h (content_write_of_ne s out _ f hne)

/-- Listing the sites changes no file, and the report tells whether they can be listed. -/
theorem listSites_leaves (o : Options) (p : Progress) (s : σ) :
    ((listSites o p : StateM σ Report).run s).2 = s ∧
      ((listSites o p : StateM σ Report).run s).1.Tells (Listable o s) := by
  rw [listSites]
  cases hsites : o.sites with
  | none =>
      have hlistable : Listable o s := by
        intro path h
        rw [hsites] at h
        cases h
      exact ⟨rfl, p.succeed_tells o.verbose hlistable⟩
  | some path =>
      have hlistable : Listable o s ↔ ∃ replicas, replicasIn? (readAt s path) = some replicas := by
        simp only [Listable, hsites, Option.some.injEq, forall_eq']
      have hload : (loadedOutcome path Replica.ofDocument (readAt s path)).1.toOption
          = replicasIn? (readAt s path) :=
        toOption_loadedOutcome path Replica.ofDocument _
      simp only [outcome_loadReplicas, StateT.run_bind, run_map_read]
      rw [hlistable, ← hload]
      rcases loadedOutcome path Replica.ofDocument (readAt s path) with ⟨result, log⟩
      cases result with
      | error e => exact ⟨rfl, Progress.fail_tells _ _ _ fun ⟨_, h⟩ => nomatch h⟩
      | ok replicas => exact ⟨rfl, Progress.succeed_tells _ _ ⟨replicas, rfl⟩⟩

/-- Whether the replicas can be listed is asked of the store that the writing leaves. -/
theorem emitWorkflow_leaves (o : Options) (w : Workflow) (p : Progress) (s : σ) :
    ((emitWorkflow o w p : StateM σ Report).run s).2 = afterEmit o w s ∧
      ((emitWorkflow o w p : StateM σ Report).run s).1.Tells
        (Writable o w s ∧ Listable o (afterEmit o w s)) := by
  rw [emitWorkflow]
  cases hemit : o.emit with
  | none =>
      have hwritable : Writable o w s := by
        intro path h
        rw [hemit] at h
        cases h
      have hafter : afterEmit o w s = s := by rw [afterEmit, hemit]
      rw [hafter]
      have hsites := listSites_leaves o p s
      exact ⟨hsites.1, hsites.2.congr (and_iff_right hwritable).symm⟩
  | some path =>
      have hwritable : Writable o w s ↔ (writeAt s path (w.textFor path)).1 = .ok () := by
        simp only [Writable, hemit, Option.some.injEq, forall_eq']
      have hafter : afterEmit o w s = (writeAt s path (w.textFor path)).2 := by
        rw [afterEmit, hemit]
      simp only [outcome_saveWorkflow, StateT.run_bind, run_map_write]
      rw [hwritable, hafter]
      rcases writeAt s path (w.textFor path) with ⟨result, s'⟩
      cases result with
      -- A run that cannot write ends here, whatever it has been asked to list.
      | error fault => exact ⟨rfl, Progress.fail_tells _ _ _ fun h => nomatch h.1⟩
      | ok done =>
          have hsites := listSites_leaves o (p.add [] [.workflowSaved path]) s'
          exact ⟨hsites.1, hsites.2.congr (and_iff_right rfl).symm⟩

/-- The store is changed by the writing of a workflow alone, whatever comes before or after. -/
theorem compileFile_leaves (path : String) (o : Options) (s : σ) :
    ((compileFile path o : StateM σ Report).run s).2
        = (match compiledIn? (readAt s path) with
          | none => s
          | some c => afterEmit o c.workflow s) ∧
      ((compileFile path o : StateM σ Report).run s).1.Tells
        (∃ c, compiledIn? (readAt s path) = some c ∧
          Writable o c.workflow s ∧ Listable o (afterEmit o c.workflow s)) := by
  have hload : (workflowOutcome path (readAt s path)).1.toOption
      = compiledIn? (readAt s path) := by
    rw [fst_workflowOutcome]
    exact toOption_loadedOutcome path compile _
  rw [compileFile]
  simp only [outcome_loadWorkflow, StateT.run_bind, run_map_read]
  rw [← hload]
  rcases workflowOutcome path (readAt s path) with ⟨result, log⟩
  cases result with
  | error e => exact ⟨rfl, Progress.fail_tells _ _ _ fun ⟨_, h, _⟩ => nomatch h⟩
  | ok c =>
      -- The workflow is there, and what is left to do is done with it.
      have hemit := emitWorkflow_leaves o c.workflow
        ⟨summary c, log ++ c.workflow.lintRecord⟩ s
      refine ⟨hemit.1, hemit.2.congr ⟨fun h => ⟨c, rfl, h⟩, ?_⟩⟩
      rintro ⟨c', hc, h⟩
      cases hc
      exact h

/-! ### A run with accepted arguments -/

/-- A run with accepted arguments ends with 0 if the workflow compiles, can be written where that
is asked for, and the replicas can be listed from the files as they are then; else it ends with 1.
A file that changes is the one under the path of `--emit`, and changes only if the workflow
compiles. Once written it holds the workflow, also where the replicas cannot be listed. -/
theorem run_of_accepted {args : List String} {path : String} {o : Options}
    (hargs : parseArguments args = .ok (.compile path o)) (s : σ) :
    ∃ report s', (run args : StateM σ Report).run s = (report, s') ∧
      (report.exit = 0 ↔ ∃ c, compiledIn? (readAt s path) = some c ∧
        Writable o c.workflow s ∧ Listable o (afterEmit o c.workflow s)) ∧
      (report.exit = 0 ∨ report.exit = 1) ∧
      (∀ f : File σ, content s' f ≠ content s f →
        ∃ out c, o.emit = some out ∧ target? s out = some f ∧
          compiledIn? (readAt s path) = some c) ∧
      ∀ out c, o.emit = some out → compiledIn? (readAt s path) = some c →
        (writeAt s out (c.workflow.textFor out)).1 = .ok () →
        ∃ f : File σ, target? s out = some f ∧
          Holds s' f (if Path.NamesYaml out then c.workflow.toYaml else c.workflow.toJson) := by
  have hrun : (run args : StateM σ Report) = compileFile path o := by
    rw [run, hargs]
  obtain ⟨hleaves, htells⟩ := compileFile_leaves path o s
  rw [hrun]
  refine ⟨_, _, Prod.mk.eta.symm, ?_⟩
  refine ⟨htells.exit_eq_zero_iff, htells.exit_eq_zero_or_one, ?_, ?_⟩
  · intro f hchanged
    rw [hleaves] at hchanged
    cases hcompiled : compiledIn? (readAt s path) with
    | none =>
        rw [hcompiled] at hchanged
        exact absurd rfl hchanged
    | some c =>
        rw [hcompiled] at hchanged
        exact (exists_target_of_afterEmit hchanged).imp fun out h => ⟨c, h.1, h.2, rfl⟩
  · intro out c hemit hcompiled hwritten
    have hafter : afterEmit o c.workflow s = (writeAt s out (c.workflow.textFor out)).2 := by
      rw [afterEmit, hemit]
    rw [hleaves, hcompiled, ← Workflow.textFor_eq]
    -- Listing replicas leaves the store as the writing left it.
    simp only [hafter]
    obtain ⟨f, htarget, hcontent⟩ := content_write_of_ok s out _ hwritten
    exact ⟨f, htarget, holds_of_content hcontent⟩

end

/-- A directory with the description of a workflow without activities. -/
def flowTree : FileTree := ⟨.ofList [(["flow.xml"], "<W><Workflow tag='w'/></W>".toUTF8)]⟩

/-- A run that is to list replicas from the file that it writes the workflow to. It fails, and
the file holds the workflow. -/
theorem run_of_accepted_ownOutput :
    ∃ report t' c, (run ["flow.xml", "--emit", "out.YAML", "--sites", "out.YAML"] :
        StateM FileTree Report).run flowTree = (report, t') ∧ report.exit = 1 ∧
      t'.files.get? ["flow.xml"] = flowTree.files.get? ["flow.xml"] ∧
      compiledIn? (readAt flowTree "flow.xml") = some c ∧
      t'.files.get? ["out.YAML"] = some c.workflow.toYaml.toUTF8 := by
  have hargs : parseArguments ["flow.xml", "--emit", "out.YAML", "--sites", "out.YAML"]
      = .ok (.compile "flow.xml" ⟨some "flow.xml", some "out.YAML", some "out.YAML", false⟩) := by
    decide
  have hexit : ((run ["flow.xml", "--emit", "out.YAML", "--sites", "out.YAML"] :
      StateM FileTree Report).run flowTree).1.exit = 1 := by decide +kernel
  obtain ⟨c, hcompiled⟩ := Option.isSome_iff_exists.1
    (by decide +kernel : (compiledIn? (readAt flowTree "flow.xml")).isSome = true)
  have htarget : flowTree.target "out.YAML" = .ok ["out.YAML"] := by decide +kernel
  have hout : LawfulStorage.target? flowTree "out.YAML" = some ["out.YAML"] := by
    show (flowTree.target "out.YAML").toOption = _
    rw [htarget]
    rfl
  obtain ⟨report, t', hrun, -, -, hchanged, hwritten⟩ := run_of_accepted hargs flowTree
  rw [hrun] at hexit
  refine ⟨report, t', c, hrun, hexit, ?_, hcompiled, ?_⟩
  · by_contra hne
    obtain ⟨out, -, hemit, hfile, -⟩ := hchanged ["flow.xml"] hne
    cases hemit
    rw [hout] at hfile
    exact absurd hfile (by decide)
  · have hok := FileTree.writeAt_of_target (c.workflow.textFor "out.YAML") htarget
    obtain ⟨f, hfile, hholds⟩ := hwritten "out.YAML" c rfl hcompiled (by rw [hok])
    rw [hout] at hfile
    cases hfile
    rw [if_pos (by decide +kernel)] at hholds
    exact hholds.content_eq

end CommandLine

end FlowGraph
