import FlowGraph.Proofs.Compile.Dependencies
import FlowGraph.Proofs.Workflow.Rules
import FlowGraph.Proofs.Workflow.StoredForm

/-!
# `FlowGraph.Proofs.Workflow.RoundTrip`: workflows read back from their text

A workflow that keeps the rules of stored workflows is read back from its JSON text
(`ofJson_toJson`). Workflows come about in two ways, and both keep the rules:

* `CompiledFrom.wellFormed`: what has been compiled keeps them, because declarations are
  checked for the same.
* `wellFormed_of_ofJson`: what has been read was checked.

So the text of either reads back (`toJson_reads_back`).
-/

set_option autoImplicit false

namespace FlowGraph

/-! ### Compiled workflows -/

/-- The relations of a declaration have distinct names, whatever their directions. -/
theorem ChildrenAcceptable.nodup_names_both {es : List Element} (h : ChildrenAcceptable es)
    (link : String → Option String) :
    ((relationsOf link es .input ++ relationsOf link es .output).map Relation.name).Nodup := by
  rw [List.map_append, List.nodup_append]
  refine ⟨h.nodup_names_relationsOf link .input, h.nodup_names_relationsOf link .output, ?_⟩
  rintro name hin name' hout rfl
  obtain ⟨r, hr, rfl⟩ := List.mem_map.1 hin
  obtain ⟨s, hs, hname⟩ := List.mem_map.1 hout
  obtain ⟨d, hd, rfl⟩ := List.mem_map.1 hr
  obtain ⟨d', hd', rfl⟩ := List.mem_map.1 hs
  rw [List.mem_filter, decide_eq_true_eq] at hd hd'
  -- Declarations of one name are one declaration, and this has one direction.
  have hsame : d' = d := h.eq_of_name_eq hd'.1 hd.1 hname
  rw [hsame, hd.2] at hd'
  cases hd'.2

/-- A relation stands among those of its direction. -/
theorem direction_of_mem_relationsOf {link : String → Option String} {es : List Element}
    {direction : Direction} {r : Relation} (hr : r ∈ relationsOf link es direction) :
    r.direction = direction := by
  obtain ⟨d, hd, rfl⟩ := List.mem_map.1 hr
  exact of_decide_eq_true (List.mem_filter.1 hd).2

/-- What declarations come to keeps the rules. -/
theorem CompiledFrom.wellFormed {ds : List Element} {w : Workflow} (h : CompiledFrom ds w)
    (hds : DeclarationsAcceptable ds) :
    w.WellFormed := by
  intro i key a hentry
  have ha : w.activity? ⟨i⟩ = some a := by
    rw [Workflow.activity?, Table.at?, Table.values, List.getElem?_map, hentry]
    rfl
  obtain ⟨d, hd, htag, hrelations⟩ := h.exists_declaration ha
  have hchildren := (hds.of_getElem? hd).children
  have hinputs : a.inputs = relationsOf _ d.children .input := hrelations .input
  have houtputs : a.outputs = relationsOf _ d.children .output := hrelations .output
  refine ⟨?_, ?_, ?_, ?_⟩
  · have hkey : w.activities.keys[i]? = some key := by
      rw [Table.keys, List.getElem?_map, hentry]
      rfl
    exact Option.some.inj (hkey.symm.trans ((h.key_eq hd).trans htag))
  · intro direction r hr
    exact direction_of_mem_relationsOf (hrelations direction ▸ hr)
  · rw [hinputs, houtputs]
    exact hchildren.nodup_names_both _
  · intro r hr t ht
    obtain ⟨direction, hr⟩ := Activity.mem_relations_iff.1 hr
    have hvisible := mem_of_dependency (hrelations direction ▸ hr) ht
    obtain ⟨j, d', hlt, hd', htag'⟩ := mem_activityTags_take.1 hvisible
    -- The tags of earlier declarations are the keys of earlier entries.
    have hkey := (h.key_eq hd').trans htag'
    rw [List.nil_append, List.map_take]
    refine List.mem_of_getElem? (i := j) ?_
    rw [List.getElem?_take, if_pos hlt]
    exact hkey

/-- What is compiled keeps the rules of stored workflows. -/
theorem wellFormed_of_compile {root : Element} {doc : CompiledDocument}
    (h : (compile root).1 = .ok doc) : doc.workflow.WellFormed := by
  obtain ⟨e, -, hdescribes⟩ := describes_of_compile h
  exact hdescribes.compiled.wellFormed hdescribes.acceptable

/-! ### Workflows from texts -/

/-- What is read as a workflow has been restored from a stored one. -/
theorem Workflow.decoder_eq_ok_iff {t : Json.Tree} {w : Workflow} :
    Workflow.decoder t = .ok w ↔
      ∃ s, StoredWorkflow.recordType.decoder t = .ok s ∧ s.restore = .ok w := by
  rw [Workflow.decoder, except_bind_eq_ok_iff]
  constructor
  · rintro ⟨s, hs, hrestore⟩
    cases h : s.restore with
    | error e =>
        rw [h] at hrestore
        cases hrestore
    | ok v =>
        rw [h] at hrestore
        cases hrestore
        exact ⟨s, hs, h⟩
  · rintro ⟨s, hs, hrestore⟩
    exact ⟨s, hs, by rw [hrestore]; rfl⟩

/-- A workflow that has been read from a text is what the text stores, restored. -/
theorem exists_stored_of_ofJson {s : String} {w : Workflow} (h : Workflow.ofJson s = .ok w) :
    ∃ stored, StoredWorkflow.recordType.decoder (Json.Tree.read s.toList).1 = .ok stored ∧
      stored.restore = .ok w := by
  rw [Workflow.ofJson, Json.readText, except_bind_eq_ok_iff] at h
  obtain ⟨v, hv, hrest⟩ := h
  split at hrest
  · cases hrest
    exact Workflow.decoder_eq_ok_iff.1 hv
  · cases hrest

/-- What is read keeps the rules of stored workflows. -/
theorem wellFormed_of_ofJson {s : String} {w : Workflow} (h : Workflow.ofJson s = .ok w) :
    w.WellFormed := by
  obtain ⟨stored, -, hrestore⟩ := exists_stored_of_ofJson h
  exact wellFormed_of_restore hrestore

/-- A workflow that keeps the rules is read back from its text. -/
theorem ofJson_toJson {w : Workflow} (h : w.WellFormed) : Workflow.ofJson w.toJson = .ok w := by
  have hdecode : Workflow.decoder (Json.Tree.ofData w.toData) = .ok w :=
    Workflow.decoder_eq_ok_iff.2
      ⟨_, Workflow.decoder_toData w, restore_eq_ok_iff.2 ⟨h, rfl⟩⟩
  rw [Workflow.ofJson, Json.readText, Workflow.toJson, Json.read_render]
  show (Workflow.decoder (Json.Tree.ofData w.toData) >>= _) = _
  rw [hdecode]
  rfl

/-- A workflow that has been compiled, or read from a text, is read back from its own text as
the workflow that it was, and then has the same text again. -/
theorem toJson_reads_back {w : Workflow}
    (h : (∃ root doc, (compile root).1 = .ok doc ∧ doc.workflow = w) ∨
      ∃ s, Workflow.ofJson s = .ok w) :
    ∃ v, Workflow.ofJson w.toJson = .ok v ∧ v.tag = w.tag ∧ v.description = w.description ∧
      v.activities.entries = w.activities.entries ∧ v.toJson = w.toJson := by
  have hrules : w.WellFormed := by
    rcases h with ⟨root, doc, hcompile, rfl⟩ | ⟨s, hread⟩
    · exact wellFormed_of_compile hcompile
    · exact wellFormed_of_ofJson hread
  exact ⟨w, ofJson_toJson hrules, rfl, rfl, rfl, rfl⟩

/-- A description whose texts have to be escaped. -/
def oddTexts : Element :=
  ⟨"Document", .empty, [⟨"Workflow", .ofList [("tag", "a\"b\\c\x00"), ("description", "\n\t")], [
    ⟨"Activity", .ofList [("tag", "\x1f"), ("type", "reduce"), ("operand", "x, x")], [
      ⟨"Relation", .ofList [("name", ""), ("reltype", "output")], []⟩,
      ⟨"Field", .ofList [("name", "x"), ("type", "\""), ("decimalplaces", " +07 "),
        ("output", "")], []⟩]⟩]⟩]⟩

/-- The compiled workflow is read back whole, and written again as it was. -/
theorem toJson_reads_back_oddTexts : ∃ doc, (compile oddTexts).1 = .ok doc ∧
    ∃ v, Workflow.ofJson doc.workflow.toJson = .ok v ∧ v.tag = doc.workflow.tag ∧
      v.description = doc.workflow.description ∧
      v.activities.entries = doc.workflow.activities.entries ∧
      v.toJson = doc.workflow.toJson := by
  have hok : (compile oddTexts).1.toOption.isSome = true := by decide +kernel
  obtain ⟨doc, hdoc⟩ := exists_ok_of_isSome_toOption hok
  exact ⟨doc, hdoc, toJson_reads_back (Or.inl ⟨oddTexts, doc, hdoc, rfl⟩)⟩

end FlowGraph
