import Mathlib.Logic.Relation
import FlowGraph.Proofs.Compile.Faithful

/-!
# `FlowGraph.Proofs.Compile.Dependencies`: dependencies lead to earlier activities

A relation keeps its dependency exactly if the tag is that of an earlier declaration, and the
dependency leads to the activity at that position (`Relation.LinkedTo`). One step along a
dependency is `Workflow.DependsOn`. All steps lead to smaller positions
(`CompiledFrom.lt_of_dependsOn`), so no chain of them comes back to where it started.

A dependency is kept as a tag and looked up again when it is followed. That both agree rests on
the keys: activities are kept under their own tags, and no key occurs twice.
-/

set_option autoImplicit false

namespace FlowGraph

/-! ### Tags and positions -/

/-- A tag that is visible is found as itself. -/
theorem visibleTag_eq_some_iff {earlier : List String} {t s : String} :
    visibleTag earlier t = some s ↔ t ∈ earlier ∧ t = s := by
  rw [visibleTag]
  split
  · next h => simp [h]
  · next h => simp [h]

/-- A tag that is taken at a place is that of an earlier declaration. -/
theorem mem_activityTags_take {ds : List Element} {i : Nat} {t : String} :
    t ∈ activityTags (ds.take i) ↔
      ∃ j d, j < i ∧ ds[j]? = some d ∧ d.attribute? "tag" = some t := by
  rw [activityTags, List.mem_filterMap]
  constructor
  · rintro ⟨d, hd, htag⟩
    obtain ⟨j, hj⟩ := List.mem_iff_getElem?.1 hd
    rw [List.getElem?_take] at hj
    split at hj
    · next hlt => exact ⟨j, d, hlt, hj, htag⟩
    · cases hj
  · rintro ⟨j, d, hlt, hj, htag⟩
    refine ⟨d, List.mem_iff_getElem?.2 ⟨j, ?_⟩, htag⟩
    rw [List.getElem?_take, if_pos hlt, hj]

namespace CompiledFrom

variable {ds : List Element} {w : Workflow}

/-- The key at a position is the tag of the declaration there. -/
theorem key_eq (h : CompiledFrom ds w) {i : Nat} {d : Element} (hd : ds[i]? = some d) :
    w.activities.keys[i]? = d.attribute? "tag" := by
  obtain ⟨shell, hshell, hentry⟩ := h.entry i d hd
  rw [Table.keys, List.getElem?_map, hentry, (Activity.ofElement_eq_ok_iff.1 hshell).1]
  rfl

/-- The tag of a declaration is found at its position. -/
theorem indexOf?_tag (h : CompiledFrom ds w) {i : Nat} {d : Element} {t : String}
    (hd : ds[i]? = some d) (htag : d.attribute? "tag" = some t) :
    w.activities.indexOf? t = some i := by
  rw [Table.indexOf?_eq_some_iff, h.key_eq hd, htag]

/-- What is found under the tag of a declaration is the activity at its position. -/
theorem get?_of_tag (h : CompiledFrom ds w) {i : Nat} {d : Element} {t : String}
    (hd : ds[i]? = some d) (htag : d.attribute? "tag" = some t) :
    ∃ a, w.get? t = some a ∧ w.activity? ⟨i⟩ = some a := by
  obtain ⟨shell, -, ha⟩ := h.activity hd
  exact ⟨_, (Table.at?_of_indexOf? (h.indexOf?_tag hd htag)).symm.trans ha, ha⟩

/-- No tag is declared twice. -/
theorem index_inj (h : CompiledFrom ds w) {i j : Nat} {d d' : Element} {t : String}
    (hd : ds[i]? = some d) (hd' : ds[j]? = some d') (htag : d.attribute? "tag" = some t)
    (htag' : d'.attribute? "tag" = some t) : i = j :=
  Option.some.inj ((h.indexOf?_tag hd htag).symm.trans (h.indexOf?_tag hd' htag'))

/-- Every activity stands at the position of a declaration. -/
theorem exists_declaration (h : CompiledFrom ds w) {i : Nat} {a : Activity}
    (ha : w.activity? ⟨i⟩ = some a) : ∃ d, ds[i]? = some d ∧ d.attribute? "tag" = some a.tag ∧
      ∀ direction, a.relations direction
        = relationsOf (visibleTag (activityTags (ds.take i))) d.children direction := by
  obtain ⟨d, shell, hd, hshell, rfl⟩ := h.exists_completed ha
  exact ⟨d, hd, Activity.attribute?_tag_completed hshell _,
    fun direction => Activity.relations_completed ..⟩

/-- No activity stands at two positions. -/
theorem activity?_inj (h : CompiledFrom ds w) {i j : Nat} {a : Activity}
    (hi : w.activity? ⟨i⟩ = some a) (hj : w.activity? ⟨j⟩ = some a) : i = j := by
  obtain ⟨d, hd, htag, -⟩ := h.exists_declaration hi
  obtain ⟨d', hd', htag', -⟩ := h.exists_declaration hj
  exact h.index_inj hd hd' htag htag'

end CompiledFrom

/-! ### Dependencies -/

/-- A relation of an activity is one of a direction. -/
theorem Activity.mem_relations_iff {a : Activity} {r : Relation} :
    r ∈ a.inputs ++ a.outputs ↔ ∃ direction, r ∈ a.relations direction := by
  rw [List.mem_append]
  constructor
  · rintro (h | h)
    · exact ⟨.input, h⟩
    · exact ⟨.output, h⟩
  · rintro ⟨direction, h⟩
    cases direction with
    | input => exact Or.inl h
    | output => exact Or.inr h

/-- What a relation depends on is visible. -/
theorem mem_of_dependency {earlier : List String} {es : List Element} {direction : Direction}
    {r : Relation} {t : String} (hr : r ∈ relationsOf (visibleTag earlier) es direction)
    (ht : r.dependency = some t) : t ∈ earlier := by
  obtain ⟨d, -, rfl⟩ := List.mem_map.1 hr
  obtain ⟨s, -, hs⟩ := Option.bind_eq_some_iff.1 ht
  obtain ⟨hmem, rfl⟩ := visibleTag_eq_some_iff.1 hs
  exact hmem

/-- What the dependency of a relation has to do with the element that declares it, in the
declaration at position `i` of `ds`: it is kept if it is the tag of an earlier declaration, and
then leads to the activity there. -/
structure Relation.LinkedTo (r : Relation) (e : Element) (ds : List Element) (i : Nat)
    (w : Workflow) : Prop where
  dependency : ∀ t, r.dependency = some t ↔ e.attribute? "dependency" = some t ∧
    ∃ j d, j < i ∧ ds[j]? = some d ∧ d.attribute? "tag" = some t
  target : ∀ t j d, r.dependency = some t → ds[j]? = some d → d.attribute? "tag" = some t →
    j < i ∧ ∃ a, w.dependencyOf? r = some a ∧ w.activity? ⟨j⟩ = some a

/-- The activity at `i` reads from the activity at `j` through one of its relations. -/
def Workflow.DependsOn (w : Workflow) (i j : ActivityId) : Prop :=
  ∃ a r b, w.activity? i = some a ∧ r ∈ a.inputs ++ a.outputs ∧ w.dependencyOf? r = some b ∧
    w.activity? j = some b

namespace CompiledFrom

variable {ds : List Element} {w : Workflow}

/-- A dependency that is kept leads to an earlier position. -/
theorem exists_target (h : CompiledFrom ds w) {i : Nat} {a : Activity} {r : Relation} {t : String}
    (ha : w.activity? ⟨i⟩ = some a) (hr : r ∈ a.inputs ++ a.outputs)
    (ht : r.dependency = some t) :
    ∃ j b, j < i ∧ w.dependencyOf? r = some b ∧ w.activity? ⟨j⟩ = some b := by
  obtain ⟨d, -, -, hrelations⟩ := h.exists_declaration ha
  have hvisible : t ∈ activityTags (ds.take i) := by
    obtain ⟨direction, hr⟩ := Activity.mem_relations_iff.1 hr
    rw [hrelations] at hr
    exact mem_of_dependency hr ht
  obtain ⟨j, d', hlt, hd', htag⟩ := mem_activityTags_take.1 hvisible
  obtain ⟨b, hget, hb⟩ := h.get?_of_tag hd' htag
  refine ⟨j, b, hlt, ?_, hb⟩
  rw [Workflow.dependencyOf?, ht, Option.bind_some, hget]

/-- Every step leads to a smaller position. -/
theorem lt_of_dependsOn (h : CompiledFrom ds w) {i j : ActivityId} (hstep : w.DependsOn i j) :
    j.index < i.index := by
  obtain ⟨a, r, b, ha, hr, hb, hj⟩ := hstep
  cases ht : r.dependency with
  | none =>
      rw [Workflow.dependencyOf?, ht] at hb
      cases hb
  | some t =>
      -- The dependency leads to one position, and no other has the same activity.
      obtain ⟨k, b', hlt, hb', hk⟩ := h.exists_target ha hr ht
      rw [hb, Option.some.injEq] at hb'
      subst hb'
      rwa [h.activity?_inj hj hk]

/-- So does every chain of steps. -/
theorem lt_of_transGen (h : CompiledFrom ds w) {i j : ActivityId}
    (hchain : Relation.TransGen w.DependsOn i j) : j.index < i.index := by
  induction hchain with
  | single hstep => exact h.lt_of_dependsOn hstep
  | tail _ hstep ih => exact Nat.lt_trans (h.lt_of_dependsOn hstep) ih

/-- Every relation is linked as its element asks for. -/
theorem forall₂_linkedTo (h : CompiledFrom ds w) {i : Nat} {d : Element} {a : Activity}
    (hd : ds[i]? = some d) (hchildren : ChildrenAcceptable d.children)
    (ha : w.activity? ⟨i⟩ = some a) (direction : Direction) :
    List.Forall₂ (fun r e => r.LinkedTo e ds i w) (a.relations direction)
      (relationElements d.children direction) := by
  obtain ⟨d', hd', -, hrelations⟩ := h.exists_declaration ha
  rw [hd, Option.some.injEq] at hd'
  subst hd'
  rw [hrelations]
  refine (forall₂_relationsOf hchildren _ direction).imp ?_
  rintro r e ⟨decl, hdecl, rfl⟩
  have hdependency := (RelationDeclaration.ofElement_eq_ok_iff.1 hdecl).2.2
  have hkept : ∀ t, (Relation.ofDeclaration (visibleTag (activityTags (ds.take i))) d.children
      decl).dependency = some t ↔ e.attribute? "dependency" = some t ∧
        ∃ j d, j < i ∧ ds[j]? = some d ∧ d.attribute? "tag" = some t := by
    intro t
    rw [← mem_activityTags_take, ← hdependency, Relation.ofDeclaration, Option.bind_eq_some_iff]
    constructor
    · rintro ⟨s, hs, hst⟩
      obtain ⟨hmem, rfl⟩ := visibleTag_eq_some_iff.1 hst
      exact ⟨hs, hmem⟩
    · rintro ⟨ht, hmem⟩
      exact ⟨t, ht, visibleTag_eq_some_iff.2 ⟨hmem, rfl⟩⟩
  refine ⟨hkept, fun t j d' ht hd' htag => ?_⟩
  obtain ⟨-, k, d'', hlt, hd'', htag''⟩ := (hkept t).1 ht
  -- The declaration with the tag is the earlier one, for there is no second.
  obtain rfl := h.index_inj hd' hd'' htag htag''
  obtain ⟨b, hget, hb⟩ := h.get?_of_tag hd' htag
  refine ⟨hlt, b, ?_, hb⟩
  rw [Workflow.dependencyOf?, ht, Option.bind_some, hget]

end CompiledFrom

/-- In a compiled workflow the dependencies are those that the document asks for and that name
an earlier declaration. They lead there, so every step along them goes back, no chain of steps
is a cycle, and every dependency that is kept leads somewhere. -/
theorem compile_dependencies {root : Element} {doc : CompiledDocument}
    (h : (compile root).1 = .ok doc) :
    ∃ e, root.firstChild? workflowElement = some e ∧
      (∀ i d, e.children[i]? = some d → ∃ a, doc.workflow.activity? ⟨i⟩ = some a ∧
        (∀ c ∈ d.children, c.isRelation = true →
          ∃ direction, c ∈ relationElements d.children direction) ∧
        ∀ direction, List.Forall₂ (fun r c => r.LinkedTo c e.children i doc.workflow)
          (a.relations direction) (relationElements d.children direction)) ∧
      (∀ i j, doc.workflow.DependsOn i j → j.index < i.index) ∧
      (∀ i, ¬ Relation.TransGen doc.workflow.DependsOn i i) ∧
      ∀ i a r t, doc.workflow.activity? i = some a → r ∈ a.inputs ++ a.outputs →
        r.dependency = some t → ∃ j, doc.workflow.DependsOn i j ∧
          doc.workflow.dependencyOf? r = doc.workflow.activity? j := by
  obtain ⟨e, hfirst, hdescribes⟩ := describes_of_compile h
  have hcompiled := hdescribes.compiled
  refine ⟨e, hfirst, ?_, fun i j => hcompiled.lt_of_dependsOn, ?_, ?_⟩
  · intro i d hd
    obtain ⟨shell, hshell, ha⟩ := hcompiled.activity hd
    have hchildren := (hdescribes.acceptable.of_getElem? hd).children
    exact ⟨_, ha, fun c hc => hchildren.exists_direction hc,
      hcompiled.forall₂_linkedTo hd hchildren ha⟩
  · intro i hcycle
    -- A circle would lead back to its own place.
    exact Nat.lt_irrefl _ (hcompiled.lt_of_transGen hcycle)
  · intro i a r t ha hr ht
    obtain ⟨j, b, -, hb, hj⟩ := hcompiled.exists_target ha hr ht
    exact ⟨⟨j⟩, ⟨a, r, b, ha, hr, hb, hj⟩, hb.trans hj.symm⟩

/-- A chain of two activities. The first asks for itself, for the second and for no activity at
all. -/
def askingAround : Element :=
  ⟨"Document", .empty, [⟨"Workflow", .ofList [("tag", "w")], [
    ⟨"Activity", .ofList [("tag", "a"), ("type", "map")], [
      ⟨"Relation", .ofList [("name", "p"), ("reltype", "input"), ("dependency", "a")], []⟩,
      ⟨"Relation", .ofList [("name", "q"), ("reltype", "input"), ("dependency", "b")], []⟩,
      ⟨"Relation", .ofList [("name", "r"), ("reltype", "output"), ("dependency", "c")], []⟩]⟩,
    ⟨"Activity", .ofList [("tag", "b"), ("type", "map")], [
      ⟨"Relation", .ofList [("name", "p"), ("reltype", "input"), ("dependency", "a")], []⟩]⟩]⟩]⟩

/-- The document compiles, and no activity depends on itself or on one behind it, although the first
asks for both. -/
theorem compile_dependencies_askingAround : ∃ doc, (compile askingAround).1 = .ok doc ∧
    (∀ i j, doc.workflow.DependsOn i j → j.index < i.index) ∧
    ∀ i, ¬ Relation.TransGen doc.workflow.DependsOn i i := by
  have hok : (compile askingAround).1.toOption.isSome = true := by decide +kernel
  obtain ⟨doc, hdoc⟩ := exists_ok_of_isSome_toOption hok
  obtain ⟨e, -, -, hstep, hcycle, -⟩ := compile_dependencies hdoc
  exact ⟨doc, hdoc, hstep, hcycle⟩

end FlowGraph
