import FlowGraph.Proofs.Workflow.Growth
import FlowGraph.Proofs.Workflow.Rules

/-!
# `FlowGraph.Proofs.Workflow.Links`: linking a dependency and following it

A dependency is linked by the key of an activity, but what the relation keeps is the tag that the
activity has then, and this is looked up as a key again when the dependency is followed. The two
meet in the same activity exactly if its tag is its key.

* `Workflow.Reached`: the workflows that one can come to. Activities may be changed in place, and
  it is left open which changes are let through.
* `Workflow.keyedByTag_of_reached`: without a change to a tag, every activity keeps its tag as key.
* `declare_follows_link`: where the dependency of a relation leads that has just been declared.
* `not_followsLink_of_reached`: with a change to a tag, it may lead nowhere.
-/

set_option autoImplicit false

namespace FlowGraph

namespace Workflow

/-- The workflows that one can come to by inserting, compiling and reading activities, and by the
changes to activities in place that `allowed` lets through. -/
inductive Reached (allowed : (Activity → Activity) → Prop) : Workflow → Prop where
  | start (tag : String) (description : Option String) : Reached allowed (.start tag description)
  | restore {stored : StoredWorkflow} {w : Workflow} (h : stored.restore = .ok w) :
      Reached allowed w
  | insert {w w' : Workflow} {a : Activity} {id : ActivityId} (hw : Reached allowed w)
      (h : w.insert a = .ok (id, w')) : Reached allowed w'
  /-- A declaration is compiled, successfully or not. -/
  | compile {c : Compilation} (hw : Reached allowed c.workflow) (d : Element) :
      Reached allowed ((compileActivity d).run c).2.workflow
  | update {w : Workflow} (hw : Reached allowed w) (id : ActivityId) {f : Activity → Activity}
      (h : allowed f) : Reached allowed (w.update id f)

/-! ### Keys and tags -/

/-- A change in place that leaves the tag alone. -/
def KeepsTag (f : Activity → Activity) : Prop := ∀ a, (f a).tag = a.tag

/-- Every activity has its key as its tag. -/
def KeyedByTag (w : Workflow) : Prop := ∀ e ∈ w.activities.entries, e.2.tag = e.1

section KeyedByTag

variable {w w' : Workflow}

/-- A new activity is kept under its tag. -/
theorem KeyedByTag.extends {a : Activity} (h : w.KeyedByTag) (hext : w.Extends w' a.tag a) :
    w'.KeyedByTag := by
  intro e he
  rw [hext.entries, List.mem_append, List.mem_singleton] at he
  rcases he with he | rfl
  · exact h e he
  · rfl

/-- Activities stay under their tags when no tag is changed. -/
theorem KeyedByTag.update {f : Activity → Activity} (h : w.KeyedByTag) (hf : KeepsTag f)
    (id : ActivityId) : (w.update id f).KeyedByTag := by
  intro e he
  obtain ⟨i, hi⟩ := List.mem_iff_getElem?.1 he
  change (w.activities.entries.modify id.index (fun e => (e.1, f e.2)))[i]? = some e at hi
  rw [List.getElem?_modify] at hi
  obtain ⟨e', he', rfl⟩ := Option.map_eq_some_iff.1 hi
  have htag := h e' (List.mem_of_getElem? he')
  split
  · exact (hf e'.2).trans htag
  · exact htag

/-- Nothing but a change in place parts a tag from its key. -/
theorem keyedByTag_of_reached (h : w.Reached KeepsTag) : w.KeyedByTag := by
  induction h with
  | start tag description =>
      intro e he
      cases he
  | restore h =>
      intro e he
      obtain ⟨i, hi⟩ := List.mem_iff_getElem?.1 he
      exact (wellFormed_of_restore h i e.1 e.2 hi).key_eq.symm
  | insert hw h ih => exact ih.extends (insert_eq_ok_iff.1 h).2
  | @compile c hw d ih =>
      rcases compileActivity_unchanged_or_extends d c with ⟨err, hrun⟩ | ⟨a, hext⟩
      · rwa [hrun]
      · exact ih.extends hext
  | update hw id hf ih => exact ih.update hf id

/-! ### Two look-ups -/

/-- A dependency is linked to the activity under its key, if this comes earlier. -/
theorem linkDependency_eq_some_iff {current id : ActivityId} {t : String} :
    (w.linkDependency current t).1 = some id ↔
      w.idOf? t = some id ∧ id.index < current.index := by
  rw [linkDependency_fst, except_toOption_eq_some_iff, resolveDependency_eq_ok_iff]

/-- Where activities are kept under their tags, a tag is that of the activity it leads to. -/
theorem KeyedByTag.tagOf_eq (h : w.KeyedByTag) {id : ActivityId} {t : String}
    (hid : w.idOf? t = some id) : w.tagOf id = t := by
  obtain ⟨a, ha⟩ := exists_of_idOf? hid
  rw [tagOf, activity?_of_idOf? hid, ha]
  exact h (t, a) (Table.get?_eq_some_iff.1 ha)

end KeyedByTag

end Workflow

/-! ### Declaring and following -/

section Declare

variable {c : Compilation} {r : Registry} {name t : String} {direction : Direction}

/-- Following the dependency of the relation that a declaration stores leads where linking has
led, and nowhere if linking has led nowhere. -/
def FollowsLink (c : Compilation) (r : Registry) (name : String) (direction : Direction)
    (t : String) : Prop :=
  ∀ ref r' c' rel, (r.declare name direction (some t)).run c = (.ok (ref, r'), c') →
    c'.workflow.relation? r.activity ref = some rel →
    c'.workflow.dependencyOf? rel
      = (c.workflow.linkDependency r.activity t).1.bind c'.workflow.activity?

/-- What a new name is declared as, with the relation that then stands at its place. -/
theorem exists_declare {a : Activity} (ha : c.workflow.activity? r.activity = some a)
    (hnew : name ∉ r.names) (direction : Direction) (t : String) :
    ∃ ref r' c' rel, (r.declare name direction (some t)).run c = (.ok (ref, r'), c') ∧
      c'.workflow = c.workflow.update r.activity (·.addRelation rel) ∧
      c'.workflow.relation? r.activity ref = some rel ∧
      rel.dependency = (c.workflow.linkDependency r.activity t).1.map c.workflow.tagOf :=
  ⟨_, _, _, ⟨name, direction, _, []⟩,
    Registry.run_declare_of_not_mem direction (some t) hnew ha, rfl,
    Workflow.relation?_addRelation ha _, rfl⟩

/-- A relation is declared with a dependency on `t`. If this does not link, following it leads
nowhere. If it links to the activity `id`, following it leads there exactly if `t` is still the tag
of this activity, and so it does in every workflow in which no tag has been changed in place. -/
theorem declare_follows_link {a : Activity} (ha : c.workflow.activity? r.activity = some a)
    (hnew : name ∉ r.names) (direction : Direction) (t : String) :
    ∃ ref r' c' rel, (r.declare name direction (some t)).run c = (.ok (ref, r'), c') ∧
      c'.workflow.relation? r.activity ref = some rel ∧
      ((c.workflow.linkDependency r.activity t).1 = none → c'.workflow.dependencyOf? rel = none) ∧
      ∀ id, (c.workflow.linkDependency r.activity t).1 = some id →
        (rel.dependency.bind c'.workflow.idOf? = some id ↔ c.workflow.tagOf id = t) ∧
        (c.workflow.tagOf id = t → ∃ b, c.workflow.activity? id = some b ∧
          c'.workflow.activity? id = some b ∧ c'.workflow.dependencyOf? rel = some b) ∧
        (c.workflow.Reached Workflow.KeepsTag → c.workflow.tagOf id = t) := by
  obtain ⟨ref, r', c', rel, hrun, hw, hrel, hdependency⟩ := exists_declare ha hnew direction t
  refine ⟨ref, r', c', rel, hrun, hrel, ?_, ?_⟩
  · intro hnone
    rw [Workflow.dependencyOf?, hdependency, hnone]
    rfl
  · intro id hlink
    obtain ⟨hid, hlt⟩ := Workflow.linkDependency_eq_some_iff.1 hlink
    have hid' : c'.workflow.idOf? t = some id := by rw [hw, Workflow.idOf?_update, hid]
    rw [hlink, Option.map_some] at hdependency
    refine ⟨?_, ?_, ?_⟩
    · rw [hdependency, Option.bind_some]
      constructor
      · -- A position has one key.
        intro hfollow
        have hkey := Workflow.idOf?_eq_some_iff.1 hfollow
        rw [Workflow.idOf?_eq_some_iff.1 hid', Option.some.injEq] at hkey
        exact hkey.symm
      · intro htag
        rw [htag, hid']
    · intro htag
      obtain ⟨b, hb⟩ := Workflow.exists_of_idOf? hid'
      have hactivity : c'.workflow.activity? id = some b := by
        rw [Workflow.activity?_of_idOf? hid', hb]
      have hsame : c'.workflow.activity? id = c.workflow.activity? id := by
        rw [hw, Workflow.activity?_update, if_neg (Nat.ne_of_gt hlt)]
      refine ⟨b, hsame ▸ hactivity, hactivity, ?_⟩
      rw [Workflow.dependencyOf?, hdependency, htag, Option.bind_some, hb]
    · intro hreached
      exact (Workflow.keyedByTag_of_reached hreached).tagOf_eq hid

/-- Two activities, of which the second may depend on the first. -/
def twoActivities : Workflow :=
  ⟨"w", none, .ofList [("a", .bare "a" .map), ("b", .bare "b" .map)]⟩

/-- Two insertions make the workflow. -/
theorem reached_twoActivities (allowed : (Activity → Activity) → Prop) :
    twoActivities.Reached allowed := by
  have hfirst : (Workflow.start "w" none).insert (.bare "a" .map)
      = .ok (⟨0⟩, ⟨"w", none, .ofList [("a", .bare "a" .map)]⟩) := by decide +kernel
  have hsecond : (⟨"w", none, .ofList [("a", .bare "a" .map)]⟩ : Workflow).insert (.bare "b" .map)
      = .ok (⟨1⟩, twoActivities) := by decide +kernel
  exact ((Workflow.Reached.start "w" none).insert hfirst).insert hsecond

/-- The dependency that is declared leads to the first activity. -/
theorem declare_follows_link_twoActivities : ∃ ref r' c' rel,
    ((Registry.start ⟨1⟩).declare "i" .input (some "a")).run ⟨twoActivities, []⟩
      = (.ok (ref, r'), c') ∧
    c'.workflow.relation? ⟨1⟩ ref = some rel ∧
    c'.workflow.dependencyOf? rel = some (.bare "a" .map) := by
  have hsecond : twoActivities.activity? ⟨1⟩ = some (.bare "b" .map) := by decide +kernel
  have hnew : "i" ∉ (Registry.start ⟨1⟩).names := by decide
  obtain ⟨ref, r', c', rel, hrun, hrel, -, hlinked⟩ :=
    declare_follows_link (c := ⟨twoActivities, []⟩) hsecond hnew .input "a"
  have hlink : (twoActivities.linkDependency ⟨1⟩ "a").1 = some ⟨0⟩ := by decide +kernel
  obtain ⟨-, hfollow, htag⟩ := hlinked ⟨0⟩ hlink
  obtain ⟨b, hb, -, hdependency⟩ := hfollow (htag (reached_twoActivities _))
  have hfirst : twoActivities.activity? ⟨0⟩ = some (.bare "a" .map) := by decide +kernel
  rw [hb] at hfirst
  exact ⟨ref, r', c', rel, hrun, hrel, hfirst ▸ hdependency⟩

/-- Where the tag of the activity is no key, following the dependency on it leads nowhere. -/
theorem not_followsLink {a : Activity} {id : ActivityId}
    (ha : c.workflow.activity? r.activity = some a) (hnew : name ∉ r.names)
    (hlink : (c.workflow.linkDependency r.activity t).1 = some id)
    (htag : c.workflow.tagOf id ∉ c.workflow.activities.keys) :
    ¬ FollowsLink c r name direction t := by
  intro hfollows
  obtain ⟨ref, r', c', rel, hrun, hw, hrel, hdependency⟩ := exists_declare ha hnew direction t
  have hid : c'.workflow.idOf? t = some id := by
    rw [hw, Workflow.idOf?_update, (Workflow.linkDependency_eq_some_iff.1 hlink).1]
  have hnone : c'.workflow.get? (c.workflow.tagOf id) = none := by
    rw [Workflow.get?, Table.get?_eq_none_iff, hw, Workflow.keys_update]
    exact htag
  obtain ⟨b, hb⟩ := Workflow.exists_of_idOf? hid
  -- Following would lead to an activity, and the stored tag leads to none.
  have hlost := hfollows ref r' c' rel hrun hrel
  rw [Workflow.dependencyOf?, hdependency, hlink, Option.map_some, Option.bind_some, hnone,
    Option.bind_some, Workflow.activity?_of_idOf? hid, hb] at hlost
  cases hlost

/-- The first of two activities has got another tag since it came. -/
def renamedFirst : Workflow := twoActivities.update ⟨0⟩ (fun a => { a with tag := "z" })

/-- Linking and following part: it is not so that every relation leads where its dependency has been
linked, in every workflow that can be reached with changes of any kind. -/
theorem not_followsLink_of_reached : ¬ ∀ (c : Compilation) (r : Registry) (a : Activity)
    (name : String) (direction : Direction) (t : String),
    c.workflow.Reached (fun _ => True) → c.workflow.activity? r.activity = some a →
      FollowsLink c r name direction t := by
  intro hall
  have hreached : renamedFirst.Reached (fun _ => True) :=
    (reached_twoActivities _).update ⟨0⟩ trivial
  have hsecond : renamedFirst.activity? ⟨1⟩ = some (.bare "b" .map) := by decide +kernel
  have hlink : (renamedFirst.linkDependency ⟨1⟩ "a").1 = some ⟨0⟩ := by decide +kernel
  -- The first activity is called "z" now, and this is no key.
  have htag : renamedFirst.tagOf ⟨0⟩ ∉ renamedFirst.activities.keys := by decide +kernel
  exact not_followsLink hsecond (List.not_mem_nil) hlink htag
    (hall ⟨renamedFirst, []⟩ (.start ⟨1⟩) _ "i" .input "a" hreached hsecond)

end Declare

end FlowGraph
