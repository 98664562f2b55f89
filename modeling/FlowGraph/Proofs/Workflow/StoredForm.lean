import FlowGraph.Proofs.Json.Records
import FlowGraph.Workflow.Restore

/-!
# `FlowGraph.Proofs.Workflow.StoredForm`: stored parts read back

The stored form of a field, a relation, an activity and a workflow is read as the value it
was made of. Each proof walks the entries in the order in which they were written: a part
that is always there is one step, and one that may be left out is a step whose default is
the value that was not written. `decoder_toData` is the last of them, for the table of a
workflow before its rules are looked at.
-/

set_option autoImplicit false

namespace FlowGraph

open Json Json.Tree

/-! ### Closed vocabularies -/

/-- A direction is read back from its name. -/
theorem Direction.variant_name (d : Direction) :
    Decoder.variant Direction.byName (.text (some d.name)) = .ok d := by
  cases d <;> rfl

/-- A kind is read back from its name. -/
theorem ActivityKind.variant_name (k : ActivityKind) :
    Decoder.variant ActivityKind.byName (.text (some k.name)) = .ok k := by
  cases k <;> rfl

/-- A kind of operands is read back from its name. -/
theorem OperandKind.ofName_name (k : OperandKind) :
    Decoder.ofName OperandKind.byName k.name = .ok k := by
  cases k <;> rfl

/-! ### Fields -/

/-- What is known of a field once its name and type have been read. -/
private def Field.draft (f : Field) (decimalPlaces : Option UInt32)
    (fileOperation instrumented : Option String) : DraftField :=
  ⟨some f.name, some f.type, decimalPlaces, fileOperation, instrumented⟩

/-- A stored field reads back. -/
theorem Field.decoder_toData (f : Field) :
    Field.recordType.decoder (ofData f.toData) = .ok f := by
  have hnames : TakesUp Field.recordType ["name", "type"]
      [("name", .text f.name), ("type", .text f.type)] {} (f.draft none none none) :=
    ⟨List.Sublist.refl _, rfl⟩
  have hoperation : TakesUp Field.recordType ["file_operation"]
      (Data.optionalText "file_operation" f.fileOperation) (f.draft f.decimalPlaces none none)
      (f.draft f.decimalPlaces f.fileOperation none) :=
    TakesUp.optionalText (fun o => f.draft f.decimalPlaces o none) _ (fun _ => rfl)
  have hinstrumented : TakesUp Field.recordType ["instrumented"]
      (Data.optionalText "instrumented" f.instrumented)
      (f.draft f.decimalPlaces f.fileOperation none)
      (f.draft f.decimalPlaces f.fileOperation f.instrumented) :=
    TakesUp.optionalText (fun o => f.draft f.decimalPlaces f.fileOperation o) _ (fun _ => rfl)
  have hread : ∀ es, TakesUp Field.recordType ["decimal_places"] es (f.draft none none none)
      (f.draft f.decimalPlaces none none) → Field.recordType.decoder (ofData (.mapping
        ([("name", .text f.name), ("type", .text f.type)] ++ es
          ++ Data.optionalText "file_operation" f.fileOperation
          ++ Data.optionalText "instrumented" f.instrumented))) = .ok f := by
    intro es hplaces
    exact decoder_ofData (by decide)
      (((hnames.append hplaces).append hoperation).append hinstrumented) rfl
  rw [Field.toData]
  -- Decimal places are written only where there are any.
  cases hplaces : f.decimalPlaces with
  | none =>
      refine hread [] ?_
      rw [hplaces]
      exact TakesUp.nil _ _
  | some n =>
      have hn : Decoder.optional Decoder.uint32 (ofData (.number n.toNat)) = .ok (some n) := by
        show (Decoder.uint32 (ofData (.number n.toNat))).map some = _
        rw [uint32_ofData]
        rfl
      refine hread [("decimal_places", .number n.toNat)] ?_
      rw [hplaces]
      exact TakesUp.of_read (fun o => f.draft o none none) hn rfl

/-! ### Relations -/

/-- What is known of a relation once its name and direction have been read. -/
private def Relation.draft (r : Relation) (dependency : Option String) (fields : List Field) :
    DraftRelation := ⟨some r.name, some r.direction, dependency, fields⟩

/-- A stored relation reads back. -/
theorem Relation.decoder_toData (r : Relation) :
    Relation.recordType.decoder (ofData r.toData) = .ok r := by
  have hname : TakesUp Relation.recordType ["name"] [("name", .text r.name)] {}
      { name := some r.name } := TakesUp.single rfl
  have hdirection : TakesUp Relation.recordType ["reltype"]
      [("reltype", .text r.direction.name)] { name := some r.name } (r.draft none []) :=
    TakesUp.of_read (fun d => (⟨some r.name, some d, none, []⟩ : DraftRelation))
      (Direction.variant_name r.direction) rfl
  have hdependency : TakesUp Relation.recordType ["dependency"]
      (Data.optionalText "dependency" r.dependency) (r.draft none []) (r.draft r.dependency []) :=
    TakesUp.optionalText (fun o => r.draft o []) _ (fun _ => rfl)
  have hfields : TakesUp Relation.recordType ["fields"]
      [("fields", .sequence (r.fields.map Field.toData))] (r.draft r.dependency [])
      (r.draft r.dependency r.fields) :=
    TakesUp.of_read (fun fields => r.draft r.dependency fields)
      (list_ofData (fun f _ => Field.decoder_toData f)) rfl
  exact decoder_ofData (by decide)
    (((hname.append hdirection).append hdependency).append hfields) rfl

/-- A stored list of relations reads back. -/
theorem Relation.list_toData (rs : List Relation) :
    Decoder.list Relation.recordType.decoder (ofData (.sequence (rs.map Relation.toData)))
      = .ok rs := list_ofData (fun r _ => r.decoder_toData)

/-! ### Activities -/

/-- What is known of an activity once its tag, kind and optional texts have been read. -/
private def Activity.draft (a : Activity) (description templateDir activation extractor :
    Option String) : DraftActivity where
  tag := some a.tag
  kind := some a.kind
  description := description
  templateDir := templateDir
  activation := activation
  extractor := extractor

/-- What is known of an activity once its workload has been read too. -/
private def Activity.draftLists (a : Activity) (inputs outputs : List Relation)
    (operands : Table OperandKind (List String)) : DraftActivity :=
  { a.draft a.description a.templateDir a.activation a.extractor with
    workload := a.workload
    inputs := inputs
    outputs := outputs
    operands := operands }

/-- The stored operands of an activity are taken up. No operands are written as nothing. -/
private theorem Activity.takesUp_operands (a : Activity) :
    TakesUp Activity.recordType ["operands"]
      (Data.optionalMapping "operands"
        (a.operands.entries.map (fun e => (e.1.name, .sequence (e.2.map .text)))))
      (a.draftLists a.inputs a.outputs .empty) (a.draftLists a.inputs a.outputs a.operands) := by
  have htable : Decoder.table (Decoder.ofName OperandKind.byName) (Decoder.list Decoder.text)
      (ofData (.mapping (a.operands.entries.map (fun e => (e.1.name, .sequence (e.2.map .text))))))
      = .ok a.operands :=
    table_ofData a.operands OperandKind.ofName_name (fun values => list_ofData (fun _ _ => rfl))
  -- An empty table is left out, and the record starts with one.
  cases hentries : a.operands.entries with
  | nil =>
      have hempty : a.operands = .empty := Table.ext_entries hentries
      rw [hempty]
      exact TakesUp.nil _ _
  | cons e es =>
      rw [hentries] at htable
      exact TakesUp.of_read (fun operands => a.draftLists a.inputs a.outputs operands) htable rfl

/-- A stored activity reads back. -/
theorem Activity.decoder_toData (a : Activity) :
    Activity.recordType.decoder (ofData a.toData) = .ok a := by
  have htag : TakesUp Activity.recordType ["tag"] [("tag", .text a.tag)] {}
      { tag := some a.tag } := TakesUp.single rfl
  have hkind : TakesUp Activity.recordType ["type"] [("type", .text a.kind.name)]
      { tag := some a.tag } (a.draft none none none none) :=
    TakesUp.of_read (fun k => ({ tag := some a.tag, kind := some k } : DraftActivity))
      (ActivityKind.variant_name a.kind) rfl
  have hdescription : TakesUp Activity.recordType ["description"]
      (Data.optionalText "description" a.description) (a.draft none none none none)
      (a.draft a.description none none none) :=
    TakesUp.optionalText (fun o => a.draft o none none none) _ (fun _ => rfl)
  have htemplate : TakesUp Activity.recordType ["template_dir"]
      (Data.optionalText "template_dir" a.templateDir) (a.draft a.description none none none)
      (a.draft a.description a.templateDir none none) :=
    TakesUp.optionalText (fun o => a.draft a.description o none none) _ (fun _ => rfl)
  have hactivation : TakesUp Activity.recordType ["activation"]
      (Data.optionalText "activation" a.activation)
      (a.draft a.description a.templateDir none none)
      (a.draft a.description a.templateDir a.activation none) :=
    TakesUp.optionalText (fun o => a.draft a.description a.templateDir o none) _ (fun _ => rfl)
  have hextractor : TakesUp Activity.recordType ["extractor"]
      (Data.optionalText "extractor" a.extractor)
      (a.draft a.description a.templateDir a.activation none)
      (a.draft a.description a.templateDir a.activation a.extractor) :=
    TakesUp.optionalText (fun o => a.draft a.description a.templateDir a.activation o) _
      (fun _ => rfl)
  have hworkload : TakesUp Activity.recordType ["workload"] [("workload", .text a.workload)]
      (a.draft a.description a.templateDir a.activation a.extractor)
      (a.draftLists [] [] .empty) := TakesUp.single rfl
  have hinputs : TakesUp Activity.recordType ["input_relations"]
      [("input_relations", .sequence (a.inputs.map Relation.toData))]
      (a.draftLists [] [] .empty) (a.draftLists a.inputs [] .empty) :=
    TakesUp.of_read (fun rs => a.draftLists rs [] .empty) (Relation.list_toData a.inputs) rfl
  have houtputs : TakesUp Activity.recordType ["output_relations"]
      [("output_relations", .sequence (a.outputs.map Relation.toData))]
      (a.draftLists a.inputs [] .empty) (a.draftLists a.inputs a.outputs .empty) :=
    TakesUp.of_read (fun rs => a.draftLists a.inputs rs .empty) (Relation.list_toData a.outputs)
      rfl
  -- The stretches come in the order of the fields, so no key can come twice.
  have htexts := (((htag.append hkind).append hdescription).append htemplate).append
    hactivation |>.append hextractor
  exact decoder_ofData (by decide)
    ((htexts.append ((hworkload.append hinputs).append houtputs)).append a.takesUp_operands) rfl

/-! ### Workflows -/

/-- What is known of a stored workflow once its tag has been read. -/
private def Workflow.draft (w : Workflow) (description : Option String)
    (activities : Table String Activity) : DraftWorkflow := ⟨some w.tag, description, activities⟩

/-- A stored workflow reads back as the table that was stored. -/
theorem Workflow.decoder_toData (w : Workflow) :
    StoredWorkflow.recordType.decoder (ofData w.toData)
      = .ok ⟨w.tag, w.description, w.activities⟩ := by
  have htag : TakesUp StoredWorkflow.recordType ["tag"] [("tag", .text w.tag)] {}
      (w.draft none .empty) := TakesUp.single rfl
  have hdescription : TakesUp StoredWorkflow.recordType ["description"]
      (Data.optionalText "description" w.description) (w.draft none .empty)
      (w.draft w.description .empty) :=
    TakesUp.optionalText (fun o => w.draft o .empty) _ (fun _ => rfl)
  have hactivities : TakesUp StoredWorkflow.recordType ["activities"]
      [("activities", .mapping (w.activities.entries.map (fun e => (e.1, e.2.toData))))]
      (w.draft w.description .empty) (w.draft w.description w.activities) := by
    have htable : Decoder.table Except.ok Activity.recordType.decoder
        (ofData (.mapping (w.activities.entries.map (fun e => (id e.1, e.2.toData)))))
        = .ok w.activities :=
      table_ofData w.activities (fun _ => rfl) Activity.decoder_toData
    exact TakesUp.of_read (fun t => w.draft w.description t) htable rfl
  -- Each member is taken up in its field, and together they are the whole draft.
  exact decoder_ofData (by decide) ((htag.append hdescription).append hactivities) rfl

end FlowGraph
