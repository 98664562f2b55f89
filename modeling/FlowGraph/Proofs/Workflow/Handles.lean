import FlowGraph.Proofs.Workflow.Growth

/-!
# `FlowGraph.Proofs.Workflow.Handles`: the places that a registry gives out

A registry gives out places of relations, and keeps them by name. Between two of its calls, others
may insert and compile activities, add relations, even to the same activity, and use registries of
their own. `Session` is a workflow together with one registry for an activity in it, and `Call` is
what can happen to them. Whatever calls are made, the places stay good:

* `Session.grows_call`: a call lets the workflow grow and takes nothing from its place.
* `Session.Live.call_cases`: a call changes the registry only by declaring a new name.
* `Session.names_after`: behind a run of calls, the registry knows the names that it was to declare,
  each at its first declaration.
* `Session.createdBy_of_get?`: at the place of a known name stands the relation that the declaration
  of this name has put there.
* `Session.handlesHold_of_lt_size`: this, and what attaching and failing come to, for every run.
-/

set_option autoImplicit false

namespace FlowGraph

/-- What can happen to a workflow while a registry for one of its activities is in use. -/
inductive Call where
  /-- The registry declares a relation. -/
  | declare (name : String) (direction : Direction) (dependency : Option String)
  /-- The registry looks up the relation that a field names. -/
  | resolve (field name : String)
  /-- The registry attaches a field to the relation at a place. It may be a place that nobody has
  given out; where there is no relation, nothing is attached. -/
  | attach (ref : RelationRef) (f : Field)
  | insert (a : Activity)
  | compile (d : Element)
  /-- A relation is added to some activity, which may be that of the registry. -/
  | addRelation (id : ActivityId) (r : Relation)
  /-- Another registry, for this or another activity, declares a relation. -/
  | declareElsewhere (other : Registry) (name : String) (direction : Direction)
      (dependency : Option String)
  | attachElsewhere (other : Registry) (ref : RelationRef) (f : Field)

/-- The name that the registry is to declare. -/
def Call.declared? : Call → Option String
  | .declare name _ _ => some name
  | _ => none

/-- A workflow under construction, and a registry for one of its activities. -/
structure Session where
  compilation : Compilation
  registry : Registry

namespace Session

/-- A session with a registry that knows no relation yet. -/
def start (c : Compilation) (activity : ActivityId) : Session := ⟨c, .start activity⟩

/-- The workflow as it stands. -/
def workflow (s : Session) : Workflow := s.compilation.workflow

/-- The relation at a place of the registry's activity. -/
def relation? (s : Session) (ref : RelationRef) : Option Relation :=
  s.workflow.relation? s.registry.activity ref

/-- The session with another workflow. -/
def withWorkflow (s : Session) (w : Workflow) : Session :=
  { s with compilation := { s.compilation with workflow := w } }

/-- What a call comes to, with the place that the registry gives out, and what it leaves. -/
def call (s : Session) : Call → Except CompileError (Option RelationRef) × Session
  | .declare name direction dependency =>
      match (s.registry.declare name direction dependency).run s.compilation with
      | (.ok (ref, registry), c) => (.ok (some ref), ⟨c, registry⟩)
      | (.error err, c) => (.error err, ⟨c, s.registry⟩)
  | .resolve field name => ((s.registry.resolve s.workflow field name).map some, s)
  | .attach ref f => (.ok none, s.withWorkflow (s.registry.attach ref f s.workflow))
  | .insert a =>
      match s.workflow.insert a with
      | .ok (_, w) => (.ok none, s.withWorkflow w)
      | .error err => (.error err, s)
  | .compile d =>
      let (result, c) := (compileActivity d).run s.compilation
      (result.map (fun _ => none), ⟨c, s.registry⟩)
  | .addRelation id r => (.ok none, s.withWorkflow (s.workflow.update id (·.addRelation r)))
  | .declareElsewhere other name direction dependency =>
      let (result, c) := (other.declare name direction dependency).run s.compilation
      (result.map (fun _ => none), ⟨c, s.registry⟩)
  | .attachElsewhere other ref f => (.ok none, s.withWorkflow (other.attach ref f s.workflow))

/-- What a run of calls leaves. -/
def after (s : Session) (calls : List Call) : Session :=
  calls.foldl (fun s call => (s.call call).2) s

/-- A run is one part after the other. -/
theorem after_append (s : Session) (calls more : List Call) :
    s.after (calls ++ more) = (s.after calls).after more := List.foldl_append

/-- One more call at the end of a run. -/
theorem after_concat (s : Session) (calls : List Call) (call : Call) :
    s.after (calls ++ [call]) = ((s.after calls).call call).2 := s.after_append calls [call]

/-! ### One call -/

section Step

variable (s : Session) {name : String}

/-- No call takes a relation from its place. -/
theorem grows_call (call : Call) : s.workflow.Grows (s.call call).2.workflow := by
  cases call with
  | declare name direction dependency =>
      have hgrows := leaves_declare s.registry name direction dependency s.compilation
      rw [call]
      split
      · next h => rwa [h] at hgrows
      · next h => rwa [h] at hgrows
  | resolve field name => exact .refl s.workflow
  | attach ref f => exact s.workflow.grows_update _ (fun a => a.grows_addField ref f)
  | insert a =>
      rw [call]
      split
      · next h => exact (Workflow.insert_eq_ok_iff.1 h).2.grows
      · exact .refl s.workflow
  | compile d => exact leaves_compileActivity d s.compilation
  | addRelation id r => exact s.workflow.grows_update _ (fun a => a.grows_addRelation r)
  | declareElsewhere other name direction dependency =>
      exact leaves_declare other name direction dependency s.compilation
  | attachElsewhere other ref f =>
      exact s.workflow.grows_update _ (fun a => a.grows_addField ref f)

/-- The registry does not notice any call but its own declarations. -/
theorem registry_call {call : Call} (h : call.declared? = none) :
    (s.call call).2.registry = s.registry := by
  cases call with
  | declare name direction dependency => cases h
  | insert a =>
      rw [Session.call]
      split
      · rfl
      · rfl
  | _ => rfl

/-- A name that is known is refused, and nothing changes. -/
theorem call_declare_of_mem (direction : Direction) (dependency : Option String)
    (h : name ∈ s.registry.names) :
    s.call (.declare name direction dependency)
      = (.error (.duplicateRelation (s.workflow.tagOf s.registry.activity) name), s) := by
  rw [call, Registry.run_declare_of_mem direction dependency s.compilation h]
  rfl

/-- What a session comes to when its registry has declared a relation of a new name, and has given
out `ref` for it. -/
structure Declared (s s' : Session) (name : String) (ref : RelationRef) : Prop where
  new : name ∉ s.registry.names
  activity : s'.registry.activity = s.registry.activity
  entries : s'.registry.relations.entries = s.registry.relations.entries ++ [(name, ref)]
  free : s.relation? ref = none
  created : ∃ linked, s'.relation? ref = some ⟨name, ref.direction, linked, []⟩

/-- Any other name is declared behind the relations of its direction. -/
theorem call_declare_of_not_mem {a : Activity} (direction : Direction)
    (dependency : Option String) (hnew : name ∉ s.registry.names)
    (ha : s.workflow.activity? s.registry.activity = some a) :
    ∃ s', s.call (.declare name direction dependency)
        = (.ok (some ⟨direction, (a.relations direction).length⟩), s') ∧
      s.Declared s' name ⟨direction, (a.relations direction).length⟩ := by
  have hrun := Registry.run_declare_of_not_mem (c := s.compilation) direction dependency hnew ha
  rw [call, hrun]
  refine ⟨_, rfl, hnew, rfl, rfl, ?_, _, Workflow.relation?_addRelation ha _⟩
  rw [relation?, Workflow.relation?_of_activity? ha]
  exact List.getElem?_eq_none (Nat.le_refl _)

end Step

/-- The registry's activity is in the workflow. -/
def Live (s : Session) : Prop := ∃ a, s.workflow.activity? s.registry.activity = some a

namespace Live

variable {s : Session}

/-- A call changes the registry exactly if it declares a name that the registry does not know. -/
theorem call_cases (h : s.Live) (call : Call) :
    ((s.call call).2.registry = s.registry ∧ ∀ name ∈ call.declared?, name ∈ s.registry.names) ∨
    ∃ name dependency ref s', call = .declare name ref.direction dependency ∧
      s.call call = (.ok (some ref), s') ∧ s.Declared s' name ref := by
  obtain ⟨a, ha⟩ := h
  cases hdeclared : call.declared? with
  | none => exact Or.inl ⟨s.registry_call hdeclared, by simp⟩
  | some name =>
      obtain ⟨direction, dependency, rfl⟩ :
          ∃ direction dependency, call = .declare name direction dependency := by
        cases call <;> cases hdeclared
        exact ⟨_, _, rfl⟩
      -- Only a declaration concerns the names, and a name that is known is refused.
      by_cases hname : name ∈ s.registry.names
      · rw [s.call_declare_of_mem direction dependency hname]
        exact Or.inl ⟨rfl, by simpa using hname⟩
      · obtain ⟨s', hrun, hs'⟩ := s.call_declare_of_not_mem direction dependency hname ha
        exact Or.inr ⟨name, dependency, _, s', rfl, hrun, hs'⟩

/-- A registry stays with its activity. -/
theorem activity_call (h : s.Live) (call : Call) :
    (s.call call).2.registry.activity = s.registry.activity := by
  rcases h.call_cases call with ⟨hsame, -⟩ | ⟨name, dependency, ref, s', -, hrun, hs'⟩
  · rw [hsame]
  · rw [hrun]
    exact hs'.activity

/-- An activity that is there stays there through a call. -/
protected theorem call (h : s.Live) (call : Call) : (s.call call).2.Live := by
  obtain ⟨a, ha⟩ := h
  obtain ⟨a', ha', -⟩ := s.grows_call call _ a ha
  exact ⟨a', (activity_call ⟨a, ha⟩ call).symm ▸ ha'⟩

/-- The relation at a place stays there. -/
theorem relation_call (h : s.Live) (call : Call) {ref : RelationRef} {r : Relation}
    (hr : s.relation? ref = some r) :
    ∃ r', (s.call call).2.relation? ref = some r' ∧ r.Grows r' := by
  rw [relation?, h.activity_call call]
  exact (s.grows_call call).relation hr

/-- A place that a call gives out is one that the registry then knows by name. -/
theorem get?_of_call (h : s.Live) {call : Call} {ref : RelationRef}
    (hcall : (s.call call).1 = .ok (some ref)) :
    ∃ name, (s.call call).2.registry.relations.get? name = some ref := by
  -- Calls that are not of the registry give out no place, whatever they come to.
  have hno : ∀ {α : Type} (x : Except CompileError α),
      x.map (fun _ => (none : Option RelationRef)) ≠ .ok (some ref) := by
    intro α x hx
    cases x <;> cases hx
  cases call with
  | declare name direction dependency =>
      rcases h.call_cases (.declare name direction dependency) with
        ⟨-, hknown⟩ | ⟨name, dependency, ref', s', -, hrun, hs'⟩
      · rw [s.call_declare_of_mem direction dependency (hknown name rfl)] at hcall
        cases hcall
      · rw [hrun] at hcall ⊢
        cases hcall
        refine ⟨name, Table.get?_eq_some_iff.2 ?_⟩
        rw [hs'.entries]
        exact List.mem_append_right _ (List.mem_singleton_self _)
  | resolve field name =>
      refine ⟨name, ?_⟩
      rw [Session.call, Registry.resolve] at hcall
      split at hcall
      · next found hfound =>
          cases hcall
          exact hfound
      · cases hcall
  | insert a =>
      rw [Session.call] at hcall
      split at hcall <;> cases hcall
  | compile d => exact absurd hcall (hno _)
  | declareElsewhere other name direction dependency => exact absurd hcall (hno _)
  | _ => cases hcall

end Live

/-! ### Runs of calls -/

/-- The relation at `ref` goes back to the declaration of `name` among the calls. This has given out
the place, at which nothing was before, and has put the relation there. Since then only fields
have joined it. -/
def CreatedBy (s : Session) (calls : List Call) (name : String) (ref : RelationRef) : Prop :=
  ∃ before after dependency s' linked fields,
    calls = before ++ .declare name ref.direction dependency :: after ∧
    (s.after before).call (.declare name ref.direction dependency) = (.ok (some ref), s') ∧
    (s.after before).relation? ref = none ∧
    s'.relation? ref = some ⟨name, ref.direction, linked, []⟩ ∧
    (s.after calls).relation? ref = some ⟨name, ref.direction, linked, fields⟩

/-- The place that a declaration has given out holds a relation. -/
theorem CreatedBy.relation {s : Session} {calls : List Call} {name : String} {ref : RelationRef}
    (h : s.CreatedBy calls name ref) : ∃ r, (s.after calls).relation? ref = some r := by
  obtain ⟨before, more, dependency, s', linked, fields, -, -, -, -, hnow⟩ := h
  exact ⟨_, hnow⟩

/-- The registry has given out a place in answer to one of the calls. -/
def GivesOut (s : Session) (calls : List Call) (ref : RelationRef) : Prop :=
  ∃ before call after, calls = before ++ call :: after ∧
    ((s.after before).call call).1 = .ok (some ref)

namespace Live

variable {s : Session} {calls : List Call} {name : String} {ref : RelationRef}

/-- An activity that is there stays there through a run. -/
theorem after (h : s.Live) (calls : List Call) : (s.after calls).Live := by
  induction calls using List.reverseRecOn with
  | nil => exact h
  | append_singleton calls call ih =>
      rw [after_concat]
      exact ih.call call

/-- Through a run a registry stays with its activity. -/
theorem activity_after (h : s.Live) (calls : List Call) :
    (s.after calls).registry.activity = s.registry.activity := by
  induction calls using List.reverseRecOn with
  | nil => rfl
  | append_singleton calls call ih =>
      rw [after_concat, (h.after calls).activity_call, ih]

/-- Through a run a relation grows and keeps its place. -/
theorem relation_after (h : s.Live) (calls : List Call) {r : Relation}
    (hr : s.relation? ref = some r) :
    ∃ r', (s.after calls).relation? ref = some r' ∧ r.Grows r' := by
  induction calls using List.reverseRecOn with
  | nil => exact ⟨r, hr, .refl r⟩
  | append_singleton calls call ih =>
      obtain ⟨r', hr', hgrows⟩ := ih
      obtain ⟨r'', hr'', hgrows'⟩ := (h.after calls).relation_call call hr'
      rw [after_concat]
      exact ⟨r'', hr'', hgrows.trans hgrows'⟩

/-- What is at a place that goes back to a declaration still goes back to it after another call. -/
theorem createdBy_concat (h : s.Live) (hcreated : s.CreatedBy calls name ref) (call : Call) :
    s.CreatedBy (calls ++ [call]) name ref := by
  obtain ⟨before, more, dependency, s', linked, fields, rfl, hrun, hfree, hbare, hnow⟩ := hcreated
  obtain ⟨r, hr, fields', rfl⟩ := (h.after _).relation_call call hnow
  refine ⟨before, more ++ [call], dependency, s', linked, fields ++ fields', by simp, hrun, hfree,
    hbare, ?_⟩
  rw [after_concat, hr]

end Live

section Registry

variable {c : Compilation} {activity : ActivityId} {calls : List Call} {name : String}
  {ref : RelationRef}

/-- The registry knows the names that it was to declare, each at its first declaration. -/
theorem names_after (h : (start c activity).Live) (calls : List Call) :
    ((start c activity).after calls).registry.names
      = (calls.filterMap Call.declared?).eraseDups := by
  induction calls using List.reverseRecOn with
  | nil => rfl
  | append_singleton calls call ih =>
      rw [after_concat, List.filterMap_append]
      -- A call adds a name only where it declares a new one, and so does `eraseDups`.
      rcases (h.after calls).call_cases call with
        ⟨hsame, hknown⟩ | ⟨name, dependency, ref, s', rfl, hrun, hs'⟩
      · rw [hsame, ih]
        cases hdeclared : call.declared? with
        | none => simp [hdeclared]
        | some name =>
            have hmem := hknown name hdeclared
            rw [ih, List.mem_eraseDups] at hmem
            simp [hdeclared, Table.eraseDups_concat, hmem]
      · have hnew := hs'.new
        rw [ih, List.mem_eraseDups] at hnew
        have hnames : s'.registry.names
            = ((start c activity).after calls).registry.names ++ [name] := by
          rw [Registry.names, Table.keys, hs'.entries, List.map_append]
          rfl
        rw [hrun, hnames, ih]
        exact (Table.eraseDups_concat _ _).trans (if_neg hnew) |>.symm

/-- Where the registry keeps a name stands what the declaration of this name has put there. -/
theorem createdBy_of_get? (h : (start c activity).Live)
    (href : ((start c activity).after calls).registry.relations.get? name = some ref) :
    (start c activity).CreatedBy calls name ref := by
  induction calls using List.reverseRecOn with
  | nil => cases href
  | append_singleton calls call ih =>
      rw [after_concat] at href
      rcases (h.after calls).call_cases call with
        ⟨hsame, -⟩ | ⟨name', dependency, ref', s', rfl, hrun, hs'⟩
      · rw [hsame] at href
        exact h.createdBy_concat (ih href) call
      · rw [hrun, Table.get?_eq_some_iff, hs'.entries, List.mem_append] at href
        rcases href with hold | hnew
        · exact h.createdBy_concat (ih (Table.get?_eq_some_iff.2 hold)) _
        · -- The name is the one that has just been declared.
          cases List.mem_singleton.1 hnew
          obtain ⟨linked, hbare⟩ := hs'.created
          refine ⟨calls, [], dependency, s', linked, [], rfl, hrun, hs'.free, hbare, ?_⟩
          rw [after_concat, hrun, hbare]

/-- A place once given out is never out of bounds. -/
theorem GivesOut.relation (h : (start c activity).Live)
    (hgiven : (start c activity).GivesOut calls ref) :
    ∃ r, ((start c activity).after calls).relation? ref = some r := by
  obtain ⟨before, call, more, rfl, hcall⟩ := hgiven
  obtain ⟨name, href⟩ := (h.after before).get?_of_call hcall
  rw [← after_concat] at href
  obtain ⟨r, hr⟩ := (createdBy_of_get? h href).relation
  obtain ⟨r', hr', -⟩ := (h.after _).relation_after more hr
  rw [← after_append, List.append_assoc, List.singleton_append] at hr'
  exact ⟨r', hr'⟩

end Registry

/-- What a registry is good for behind the calls that have been made from `s` on. -/
structure HandlesHold (s : Session) (calls : List Call) : Prop where
  /-- The names are those that were to be declared, in the order of their first declarations. -/
  names : (s.after calls).registry.names = (calls.filterMap Call.declared?).eraseDups
  nodup : (s.after calls).registry.names.Nodup
  activity : (s.after calls).registry.activity = s.registry.activity
  /-- The place of a name is in bounds, and holds the relation that was declared by this name. -/
  created : ∀ name ref, (s.after calls).registry.relations.get? name = some ref →
    s.CreatedBy calls name ref
  /-- A declaration that fails changes nothing. It fails only where the name is known. -/
  refused : ∀ name direction dependency err s',
    (s.after calls).call (.declare name direction dependency) = (.error err, s') →
      s' = s.after calls ∧ name ∈ (s.after calls).registry.names ∧
        err = .duplicateRelation ((s.after calls).workflow.tagOf s.registry.activity) name
  /-- A look-up that fails changes nothing. It fails only where the name is not known. -/
  unresolved : ∀ field name err s',
    (s.after calls).call (.resolve field name) = (.error err, s') →
      s' = s.after calls ∧ name ∉ (s.after calls).registry.names
  /-- A place once given out can be attached to, and a field joins exactly the relation there. -/
  attached : ∀ ref f, s.GivesOut calls ref →
    ((s.after calls).call (.attach ref f)).2.registry = (s.after calls).registry ∧
    (s.after calls).workflow.FieldJoins ((s.after calls).call (.attach ref f)).2.workflow
      s.registry.activity ref f

/-- The places that a registry gives out hold, whatever calls are made of it and of everything
else. -/
theorem handlesHold_of_lt_size {c : Compilation} {activity : ActivityId}
    (h : activity.index < c.workflow.size) (calls : List Call) :
    (start c activity).HandlesHold calls := by
  have hlive : (start c activity).Live := by
    rw [Workflow.size, ← Table.length_values] at h
    exact ⟨_, List.getElem?_eq_getElem h⟩
  refine ⟨names_after hlive calls, Table.nodup_keys _, hlive.activity_after calls,
    fun name ref href => createdBy_of_get? hlive href, ?_, ?_, ?_⟩
  · intro name direction dependency err s' hcall
    -- A declaration fails only on a name that is known.
    rcases (hlive.after calls).call_cases (.declare name direction dependency) with
      ⟨-, hknown⟩ | ⟨name', dependency', ref, s'', -, hrun, -⟩
    · have hmem := hknown name rfl
      rw [call_declare_of_mem _ direction dependency hmem, hlive.activity_after calls] at hcall
      cases hcall
      exact ⟨rfl, hmem, rfl⟩
    · rw [hrun] at hcall
      cases hcall
  · intro field name err s' hcall
    rw [call, Registry.resolve] at hcall
    split at hcall
    · cases hcall
    · next hnone =>
        cases hcall
        exact ⟨rfl, Table.get?_eq_none_iff.1 hnone⟩
  · intro ref f hgiven
    obtain ⟨r, hr⟩ := hgiven.relation hlive
    refine ⟨rfl, ?_⟩
    rw [← hlive.activity_after calls]
    exact Workflow.fieldJoins_attach hr f

/-- A workflow with one activity. -/
def oneActivity : Compilation := ⟨⟨"w", none, .ofList [("a", .bare "a" .map)]⟩, []⟩

/-- Three parties add relations to one activity, and two of them use the same name. -/
def crowd : List Call := [
  .addRelation ⟨0⟩ (.bare "x" .input),
  .declare "i" .input none,
  .declareElsewhere (.start ⟨0⟩) "i" .input none,
  .insert (.bare "b" .load),
  .declare "o" .output (some "b"),
  .resolve "f" "i",
  .attach ⟨.input, 1⟩ ⟨"f", "int", none, none, none⟩,
  .declare "i" .output none]

/-- The registry is given the second place for its input, because another relation has come
first, and a field that is attached there is in it. -/
theorem handlesHold_of_lt_size_crowd :
    (start oneActivity ⟨0⟩).HandlesHold crowd ∧ (start oneActivity ⟨0⟩).GivesOut crowd ⟨.input, 1⟩ ∧
    ((start oneActivity ⟨0⟩).after crowd).registry.relations.entries
      = [("i", ⟨.input, 1⟩), ("o", ⟨.output, 0⟩)] ∧
    ((start oneActivity ⟨0⟩).after crowd).relation? ⟨.input, 1⟩
      = some ⟨"i", .input, none, [⟨"f", "int", none, none, none⟩]⟩ := by
  refine ⟨handlesHold_of_lt_size (by decide) crowd, ?_, ?_, ?_⟩
  · exact ⟨crowd.take 1, _, crowd.drop 2, rfl, by decide +kernel⟩
  · decide +kernel
  · decide +kernel

end Session

end FlowGraph
